import RustyCrew.Proof.Brain.Stream

namespace RustyCrew.Proof.Brain

open Library Protocol RustyCrew.Brain
open RustyCrew.Brain.BufferedBrainTurnCoordinator

variable {now : OffsetDateTime} {observed : ObservedTurn} {turn : BufferedBrainTurnCoordinator}

def activeItems (items : List SequencedBrainWakeStreamItem) : List SequencedBrainWakeStreamItem :=
  items.filter fun entry => !entry.item.isTerminal

def DeltaFirst (items : List SequencedBrainWakeStreamItem) : Prop :=
  ∃ first rest, items = first :: rest ∧ (streamDeltaBytes first.item).isSome = true ∧
    ∀ entry ∈ rest, streamDeltaBytes entry.item = none

structure Budgeted (stream : StreamView) : Prop where
  positive : 0 < stream.limits.maxStreamItems
  bytes : stream.queuedDeltaBytes = queuedBytes stream.streamItems
  word : stream.queuedDeltaBytes ≤ wordMax
  room : (activeItems stream.streamItems).length ≤ stream.limits.maxStreamItems
  oversized : stream.limits.maxStreamDeltaBytes < stream.queuedDeltaBytes →
    DeltaFirst stream.streamItems
  counted : stream.rawStreamItemCount =
    saturatingAdd stream.retainedStreamItemCount stream.coalescedDeltaItemCount

theorem saturatingAdd_left (a b : Nat) :
    saturatingAdd (saturatingAdd a b) 1 = saturatingAdd (saturatingAdd a 1) b := by
  simp only [saturatingAdd]
  omega

theorem saturatingAdd_right (a b : Nat) :
    saturatingAdd (saturatingAdd a b) 1 = saturatingAdd a (saturatingAdd b 1) := by
  simp only [saturatingAdd]
  omega

theorem queuedBytes_eq_zero
    (none : ∀ entry ∈ items, streamDeltaBytes entry.item = none) : queuedBytes items = 0 := by
  induction items with
  | nil => rfl
  | cons entry items ih =>
    rw [queuedBytes_cons, none entry (by simp),
      ih fun other member => none other (by simp [member])]
    rfl

section

theorem budgeted_coalesced (budget : Budgeted (streamView turn))
    (queue : turn.streamItems = front ++ [last]) (merges : mergeDelta last.item item = some merged)
    (delta : streamDeltaBytes item = some deltaBytes) (fits : DeltaFits item turn) :
    Budgeted (streamView
      (coalescedTurn (front ++ [⟨last.sequence, merged⟩]) deltaBytes now turn)) := by
  have joined := mergeDelta_some merges
  obtain ⟨n, m, lastBytes, itemBytes, mergedBytes⟩ := joined.bytes
  cases delta.symm.trans itemBytes
  obtain ⟨word, within⟩ := fits deltaBytes delta
  have within : turn.queuedDeltaBytes + deltaBytes ≤ turn.limits.maxStreamDeltaBytes :=
    within.resolve_right (by simp [queue])
  have bytes : turn.queuedDeltaBytes = queuedBytes turn.streamItems := budget.bytes
  have room : (activeItems turn.streamItems).length ≤ turn.limits.maxStreamItems := budget.room
  rw [queue] at bytes room
  refine ⟨budget.positive, ?_, word, ?_, fun past => ?_, ?_⟩
  · show turn.queuedDeltaBytes + deltaBytes = _
    simp only [streamView, coalescedTurn, bytes, queuedBytes_append, queuedBytes_cons,
      queuedBytes_nil, lastBytes, mergedBytes, Option.getD_some]
    omega
  · show (activeItems (front ++ [_])).length ≤ turn.limits.maxStreamItems
    simp only [activeItems, List.filter_append, List.length_append] at room ⊢
    simpa [joined.last, joined.merged] using room
  · exact absurd within (Nat.not_le_of_lt past)
  · show saturatingAdd turn.rawStreamItemCount 1 = _
    rw [show turn.rawStreamItemCount = _ from budget.counted, saturatingAdd_right]
    rfl

theorem appended_bytes (fits : DeltaFits item turn) :
    (streamDeltaBytes item).elim turn.queuedDeltaBytes (saturatingAdd turn.queuedDeltaBytes) =
      turn.queuedDeltaBytes + (streamDeltaBytes item).getD 0 := by
  cases delta : streamDeltaBytes item with
  | none => rfl
  | some deltaBytes =>
    have word := (fits deltaBytes delta).1
    simp only [saturatingAdd, Option.elim_some, Option.getD_some]
    omega

theorem budgeted_appended (budget : Budgeted (streamView turn)) (room : ¬streamFull item turn)
    (fits : DeltaFits item turn) : Budgeted (streamView (appendedTurn item now turn)) := by
  have bytes : turn.queuedDeltaBytes = queuedBytes turn.streamItems := budget.bytes
  have before : (activeItems turn.streamItems).length ≤ turn.limits.maxStreamItems := budget.room
  rw [appendedTurn_stream, appended_bytes fits]
  refine ⟨budget.positive, ?_, ?_, ?_, fun past => ?_, ?_⟩
  · simp [bytes]
  · cases delta : streamDeltaBytes item with
    | none => exact budget.word
    | some deltaBytes => exact (fits deltaBytes delta).1
  · show (activeItems (turn.streamItems ++ [_])).length ≤ turn.limits.maxStreamItems
    have shorter : (activeItems turn.streamItems).length ≤ turn.streamItems.length :=
      List.length_filter_le _ _
    cases terminal : item.isTerminal with
    | true => simpa [activeItems, List.filter_append, terminal] using before
    | false =>
      simp only [streamFull, terminal, true_and, not_le] at room
      simp only [activeItems, List.filter_append, List.length_append] at shorter ⊢
      simp only [terminal, Bool.not_false, List.filter_cons_of_pos, List.filter_nil,
        List.length_singleton]
      omega
  · simp only [streamView] at past ⊢
    cases delta : streamDeltaBytes item with
    | none =>
      rw [delta] at past
      obtain ⟨first, rest, queue, isDelta, others⟩ := budget.oversized past
      refine ⟨first, rest ++ [⟨turn.nextStreamSequence, item⟩], ?_, isDelta, ?_⟩
      · rw [show turn.streamItems = first :: rest from queue]
        rfl
      · intro entry member
        rcases List.mem_append.mp member with old | new
        · exact others entry old
        · cases List.mem_singleton.mp new
          exact delta
    | some deltaBytes =>
      rw [delta] at past
      have empty := (fits deltaBytes delta).2.resolve_left (Nat.not_le_of_lt past)
      refine ⟨⟨turn.nextStreamSequence, item⟩, [], ?_, ?_, by simp⟩
      · rw [empty]
        rfl
      · show (streamDeltaBytes item).isSome = true
        rw [delta]
        rfl
  · show saturatingAdd turn.rawStreamItemCount 1 = _
    rw [show turn.rawStreamItemCount = _ from budget.counted, saturatingAdd_left]
    rfl

theorem budgeted_drained (budget : Budgeted (streamView turn))
    (queue : turn.streamItems = items ++ rest) :
    Budgeted (streamView (drainedTurn rest (queuedBytes items) turn)) := by
  have bytes : turn.queuedDeltaBytes = queuedBytes turn.streamItems := budget.bytes
  have word : turn.queuedDeltaBytes ≤ wordMax := budget.word
  have room : (activeItems turn.streamItems).length ≤ turn.limits.maxStreamItems := budget.room
  rw [queue, queuedBytes_append] at bytes
  refine ⟨budget.positive, ?_, ?_, ?_, fun past => ?_, budget.counted⟩
  · show turn.queuedDeltaBytes - queuedBytes items = queuedBytes rest
    omega
  · show turn.queuedDeltaBytes - queuedBytes items ≤ wordMax
    omega
  · show (activeItems rest).length ≤ turn.limits.maxStreamItems
    rw [queue, activeItems, List.filter_append, List.length_append] at room
    exact (Nat.le_add_left _ _).trans room
  · have past : turn.limits.maxStreamDeltaBytes < turn.queuedDeltaBytes - queuedBytes items := past
    obtain ⟨first, others, whole, isDelta, none⟩ := budget.oversized (show
      turn.limits.maxStreamDeltaBytes < turn.queuedDeltaBytes by omega)
    rw [show (streamView turn).streamItems = items ++ rest from queue] at whole
    cases items with
    | nil => exact ⟨first, others, whole, isDelta, none⟩
    | cons entry items =>
      -- the only delta is gone, so no bytes are left
      cases whole
      have nothing : queuedBytes rest = 0 :=
        queuedBytes_eq_zero fun entry member => none entry (by simp [member])
      omega

end

theorem move_budgeted {before : ObservedTurn} (budget : Budgeted (streamView before.turn))
    (move : StreamMove before after) : Budgeted (streamView after.turn) := by
  cases move with
  | idle stream =>
    rw [stream]
    exact budget
  | drained items rest queue stream =>
    rw [stream]
    exact budgeted_drained budget queue
  | enqueued item now sequence outcome =>
    cases outcome with
    | rejected _ result => cases result
    | coalesced front last merged deltaBytes _ queue merges delta fits result =>
      rw [show after.turn = _ from congrArg Prod.snd result]
      exact budgeted_coalesced budget queue merges delta fits
    | appended _ room _ fits _ result =>
      rw [show after.turn = _ from congrArg Prod.snd result]
      exact budgeted_appended budget room fits

theorem validate_positive {limits : BufferedBrainTurnLimits}
    (validated : limits.validate = .ok valid) : 0 < valid.maxStreamItems := by
  simp only [BufferedBrainTurnLimits.validate, List.forM_eq_forM, List.forM_cons, bind_eq_ok,
    rejectIf_eq_ok, pure_eq_ok] at validated
  obtain ⟨-, ⟨-, nonzero, -⟩, rfl⟩ := validated
  omega

theorem budgeted_fresh {moduleId wakeId : String} {sessionId : SessionId}
    {limits : BufferedBrainTurnLimits}
    (created : newAt moduleId wakeId sessionId limits now = .ok turn) :
    Budgeted (streamView turn) := by
  simp only [newAt, bind_eq_ok, pure_eq_ok] at created
  obtain ⟨valid, validated, rfl⟩ := created
  exact ⟨validate_positive validated, rfl, by simp [streamView], Nat.zero_le _,
    fun past => absurd past (Nat.not_lt_zero _), rfl⟩

/-! ## Rejected items -/

def waitingView (turn : BufferedBrainTurnCoordinator) :
    BufferedBrainTurnPhase × (String × SessionId) × BufferedBrainTurnLimits × Nat :=
  (turn.phase, (turn.wakeId, turn.sessionId), turn.limits, turn.nextStreamSequence)

def afterDrains (turn : BufferedBrainTurnCoordinator) (drains : List (Nat × OffsetDateTime)) :
    BufferedBrainTurnCoordinator :=
  run (fun turn drain => (drainStream drain.1 drain.2 turn).2) turn drains

theorem afterDrains_waiting (turn) (drains : List (Nat × OffsetDateTime)) :
    waitingView (afterDrains turn drains) = waitingView turn := by
  refine @run_invariant_all _ _ _ (fun after => waitingView after = waitingView turn) _ drains
    (fun after drain kept => ?_) rfl
  obtain ⟨_, _, _, -, drained, -⟩ := drainStream_eq drain.1 drain.2 after
  rw [drained]
  exact kept

theorem afterDrains_budgeted (budget : Budgeted (streamView turn))
    (drains : List (Nat × OffsetDateTime)) : Budgeted (streamView (afterDrains turn drains)) := by
  refine @run_invariant_all _ _ _ (fun after => Budgeted (streamView after)) _ drains
    (fun after drain kept => ?_) budget
  obtain ⟨taken, rest, _, queue, drained, -⟩ := drainStream_eq drain.1 drain.2 after
  rw [drained]
  exact budgeted_drained kept queue

theorem enqueue_accepted (budget : Budgeted (streamView turn)) (running : turn.phase = .running)
    (identified : Identified item turn) (empty : turn.streamItems = [])
    (small : ∀ deltaBytes, streamDeltaBytes item = some deltaBytes → deltaBytes ≤ wordMax)
    (left : turn.nextStreamSequence < wordMax) (now) :
    ∃ turn', enqueueStreamItemAt item now turn = (.ok turn.nextStreamSequence, turn') := by
  have bytes : turn.queuedDeltaBytes = 0 := by
    rw [show turn.queuedDeltaBytes = _ from budget.bytes, streamView, empty, queuedBytes_nil]
  have fits : DeltaFits item turn := by
    intro deltaBytes delta
    rw [bytes, Nat.zero_add]
    exact ⟨small deltaBytes delta, .inr empty⟩
  have room : ¬streamFull item turn := by
    rw [streamFull, empty, List.length_nil]
    have positive : 0 < turn.limits.maxStreamItems := budget.positive
    omega
  cases enqueue_outcome item now turn with
  | rejected error result busy refused =>
    exact (refused ⟨running, identified, fits, room, left⟩).elim
  | coalesced before last merged deltaBytes _ queue => simp [empty] at queue
  | appended _ _ _ _ _ result => exact ⟨_, result⟩

structure WithinBudget (turn : BufferedBrainTurnCoordinator) : Prop where
  bytes : turn.queuedDeltaBytes = queuedBytes turn.streamItems
  room : (activeItems turn.streamItems).length ≤ turn.limits.maxStreamItems
  reserve : ∀ entry ∈ turn.streamItems.dropLast, entry.item.isTerminal = false
  oversized : turn.limits.maxStreamDeltaBytes < turn.queuedDeltaBytes → DeltaFirst turn.streamItems
  counted : turn.rawStreamItemCount =
    min (turn.retainedStreamItemCount + turn.coalescedDeltaItemCount) wordMax
  rejected : ∀ item now error turn', enqueueStreamItemAt item now turn = (.error error, turn') →
    turn' = turn
  /-- A rejected item of the provider changes nothing if the queue was full or the turn had ended;
  otherwise the turn fails. -/
  providerRejected : ∀ item now failedAt error turn',
    enqueueProviderStreamItem item now failedAt turn = (.error error, turn') →
      turn' = refusedTurn error failedAt turn
  /-- A delta for which there was no room is accepted once the queue is empty. -/
  retried : ∀ item deltaBytes now buffer limit drains later,
    streamDeltaBytes item = some deltaBytes → deltaBytes ≤ wordMax →
    (enqueueStreamItemAt item now turn).1 = .error (.bufferLimitExceeded buffer limit) →
    (afterDrains turn drains).streamItems = [] →
    (afterDrains turn drains).nextStreamSequence < wordMax →
    ∃ turn', enqueueStreamItemAt item later (afterDrains turn drains) =
      (.ok (afterDrains turn drains).nextStreamSequence, turn')

theorem retry_accepted (budget : Budgeted (streamView turn))
    (later : OffsetDateTime) (delta : streamDeltaBytes item = some deltaBytes)
    (small : deltaBytes ≤ wordMax)
    (rejected : (enqueueStreamItemAt item now turn).1 = .error (.bufferLimitExceeded buffer limit))
    (empty : (afterDrains turn drains).streamItems = [])
    (left : (afterDrains turn drains).nextStreamSequence < wordMax) :
    ∃ turn', enqueueStreamItemAt item later (afterDrains turn drains) =
      (.ok (afterDrains turn drains).nextStreamSequence, turn') := by
  have outcome : enqueueStreamItemAt item now turn = (.error (.bufferLimitExceeded buffer limit),
    (enqueueStreamItemAt item now turn).2) := Prod.ext rejected rfl
  obtain ⟨running, identified⟩ := (rejected_same outcome).2 buffer limit rfl
  have waiting := afterDrains_waiting turn drains
  have phase : (afterDrains turn drains).phase = turn.phase := congrArg Prod.fst waiting
  have identity : ((afterDrains turn drains).wakeId, (afterDrains turn drains).sessionId) =
      (turn.wakeId, turn.sessionId) := congrArg (fun view => view.2.1) waiting
  refine enqueue_accepted (afterDrains_budgeted budget drains) (phase.trans running) ?_ empty ?_
    left later
  · rw [Identified, identity]
    exact identified
  · intro bytes same
    cases delta.symm.trans same
    exact small

/-! ## Counters at their limit -/

def emptyDelta : TurnCall := .enqueueStreamItem (sampleItem (.textDelta "")) sampleTime

structure OnlyEmpty (turn : BufferedBrainTurnCoordinator) (coalesced : Nat) : Prop where
  phase : turn.phase = .running
  wakeId : turn.wakeId = "wake"
  sessionId : turn.sessionId = ⟨"session"⟩
  limits : turn.limits = {}
  next : turn.nextStreamSequence = 2
  items : turn.streamItems = [⟨1, sampleItem (.textDelta "")⟩]
  bytes : turn.queuedDeltaBytes = 0
  raw : turn.rawStreamItemCount = min (coalesced + 1) wordMax
  retained : turn.retainedStreamItemCount = 1
  merged : turn.coalescedDeltaItemCount = min coalesced wordMax

theorem onlyEmpty_step (empty : OnlyEmpty observed.turn coalesced) :
    OnlyEmpty (observed.step emptyDelta).turn (coalesced + 1) := by
  have turn : (observed.step emptyDelta).turn =
      (enqueueStreamItemAt (sampleItem (.textDelta "")) sampleTime observed.turn).2 := by
    rw [ObservedTurn.step, emptyDelta, TurnCall.perform, Effect.bind_pure_eq]
    split <;> simp_all
  have fits : DeltaFits (sampleItem (.textDelta "")) observed.turn := by
    intro deltaBytes delta
    cases delta
    rw [empty.bytes]
    exact ⟨Nat.zero_le _, .inl (Nat.zero_le _)⟩
  rw [turn]
  cases enqueue_outcome (sampleItem (.textDelta "")) sampleTime observed.turn with
  | rejected error result busy refused =>
    refine (refused ⟨empty.phase, ?_, fits, ?_, ?_⟩).elim
    · rw [Identified, empty.wakeId, empty.sessionId]
      rfl
    · simp [streamFull, empty.items, empty.limits, sampleItem, BrainWakeStreamItem.isTerminal]
    · rw [empty.next]
      decide
  | appended _ _ _ _ apart _ =>
    have merges := apart 0 rfl
    rw [empty.items] at merges
    cases merges
  | coalesced before last merged deltaBytes running queue merges delta _ result =>
    cases delta
    rw [empty.items] at queue
    obtain ⟨rfl, rfl⟩ : before = [] ∧ last = ⟨1, sampleItem (.textDelta "")⟩ := by
      cases before with
      | nil => exact ⟨rfl, by simpa using queue.symm⟩
      | cons first before => simp at queue
    cases merges
    rw [result]
    refine ⟨running, empty.wakeId, empty.sessionId, empty.limits, empty.next, rfl, empty.bytes,
      ?_, empty.retained, ?_⟩
    · show saturatingAdd observed.turn.rawStreamItemCount 1 = _
      rw [empty.raw, saturatingAdd]
      omega
    · show saturatingAdd observed.turn.coalescedDeltaItemCount 1 = _
      rw [empty.merged, saturatingAdd]
      omega

theorem onlyEmpty_run (empty : OnlyEmpty observed.turn 0) (n : Nat) :
    OnlyEmpty (run ObservedTurn.step observed (List.replicate n emptyDelta)).turn n := by
  induction n with
  | zero => exact empty
  | succ n ih =>
    rw [List.replicate_succ', run_append]
    exact onlyEmpty_step ih

def emptyDeltas (n : Nat) : List TurnCall :=
  [.start sampleTime, emptyDelta] ++ List.replicate n emptyDelta

theorem emptyDeltas_counted (turn)
    (created : newAt "module" "wake" ⟨"session"⟩ {} sampleTime = .ok turn) (n : Nat) :
    OnlyEmpty (run ObservedTurn.step ⟨turn, {}⟩ (emptyDeltas n)).turn n := by
  rw [emptyDeltas, run_append]
  apply onlyEmpty_run
  cases created
  constructor <;> decide +kernel

def foreignItem : BrainWakeStreamItem := .event ⟨"other", ⟨"session"⟩, .started⟩

/-- A provider item of another wake is rejected and the turn fails; and after as many empty deltas
as a counter can count, one more item is not counted. -/
theorem rejected_item_ends_turn :
    ∃ turn, newAt "module" "wake" ⟨"session"⟩ {} sampleTime = .ok turn ∧
      (let started := (run ObservedTurn.step ⟨turn, {}⟩ [.start sampleTime]).turn
       let outcome := enqueueProviderStreamItem foreignItem sampleTime sampleTime started
       outcome.1 = .error (.wakeIdentityMismatch "wake" "other") ∧ started.phase = .running ∧
          outcome.2.phase = .failed) ∧
      (let counted := (run ObservedTurn.step ⟨turn, {}⟩ (emptyDeltas wordMax)).turn
       counted.rawStreamItemCount = wordMax ∧
          counted.retainedStreamItemCount + counted.coalescedDeltaItemCount = wordMax + 1) := by
  refine ⟨_, rfl, by decide +kernel, ?_⟩
  have empty := emptyDeltas_counted _ rfl wordMax
  refine ⟨empty.raw.trans ?_, ?_⟩
  · omega
  · rw [empty.retained, empty.merged]
    omega

theorem stream_stays_within_budget (moduleId wakeId : String) (sessionId : SessionId)
    (limits : BufferedBrainTurnLimits) (now : OffsetDateTime) (turn : BufferedBrainTurnCoordinator)
    (created : newAt moduleId wakeId sessionId limits now = .ok turn) (calls : List TurnCall) :
    WithinBudget (run ObservedTurn.step ⟨turn, {}⟩ calls).turn := by
  have budget : Budgeted (streamView (run ObservedTurn.step ⟨turn, {}⟩ calls).turn) :=
    (run_moves created calls (P := fun observed => Budgeted (streamView observed.turn))
      (fun _ _ _ budget moves => move_budgeted budget moves.stream) (budgeted_fresh created)).2
  have streamed := streamed_run created calls
  generalize run ObservedTurn.step ⟨turn, {}⟩ calls = observed at budget streamed
  refine ⟨budget.bytes, budget.room, fun entry member => ?_, budget.oversized, budget.counted,
    fun item now error turn' rejected => (rejected_same rejected).1,
    fun item now failedAt error turn' rejected => ?_, ?_⟩
  · refine streamed.last entry ?_
    cases queue : observed.turn.streamItems with
    | nil => simp [queue] at member
    | cons first rest =>
      rw [wholeStream, queue, List.dropLast_append_of_ne_nil (by simp), ← queue]
      exact List.mem_append_right _ member
  · rcases provider_cases item now failedAt observed.turn with
      ⟨_, _, -, passed⟩ | ⟨_, failed⟩
    · rw [passed] at rejected
      cases rejected
    · rw [failed] at rejected
      cases rejected
      rfl
  · intro item deltaBytes now buffer limit drains later delta small rejected empty left
    exact retry_accepted budget later delta small rejected empty left

def smallLimits : BufferedBrainTurnLimits := { maxStreamItems := 1, maxStreamDeltaBytes := 2 }

def fullStream : List TurnCall :=
  [.start sampleTime, .enqueueStreamItem (sampleItem (.textDelta "abc")) sampleTime]

theorem stream_stays_within_budget_sample :
    ∃ turn, newAt "module" "wake" ⟨"session"⟩ smallLimits sampleTime = .ok turn ∧
      let full := (run ObservedTurn.step ⟨turn, {}⟩ fullStream).turn
      full.queuedDeltaBytes = 3 ∧
        (enqueueStreamItemAt (sampleItem (.textDelta "d")) sampleTime full).1 =
          .error (.bufferLimitExceeded "stream_delta_bytes" 2) ∧
        WithinBudget full :=
  ⟨_, rfl, by decide +kernel, by decide +kernel,
    stream_stays_within_budget "module" "wake" ⟨"session"⟩ smallLimits sampleTime _ rfl fullStream⟩

end RustyCrew.Proof.Brain

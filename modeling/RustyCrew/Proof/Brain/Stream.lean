import RustyCrew.Library.Merging
import RustyCrew.Proof.Brain.Tools

namespace RustyCrew.Proof.Brain

open Library Protocol RustyCrew.Brain Effect List
open RustyCrew.Brain.BufferedBrainTurnCoordinator

variable {item : BrainWakeStreamItem} {before after observed : ObservedTurn}

/-! ## Merged deltas -/

/-- A character of text, or an item that is no delta. -/
inductive StreamAtom where
  | text (character : Char)
  | reasoning (format : Option String) (character : Char)
  | item (item : BrainWakeStreamItem)
  deriving DecidableEq

def streamContent : BrainWakeStreamItem → List StreamAtom
  | .event ⟨_, _, .textDelta text⟩ => text.toList.map .text
  | .event ⟨_, _, .reasoningDelta text format⟩ => text.toList.map (.reasoning format)
  | item => [.item item]

structure MergedDelta (last item merged : BrainWakeStreamItem) : Prop where
  content : streamContent merged = streamContent last ++ streamContent item
  bytes : ∃ n m, streamDeltaBytes last = some n ∧ streamDeltaBytes item = some m ∧
    streamDeltaBytes merged = some (n + m)
  last : last.isTerminal = false
  merged : merged.isTerminal = false

theorem mergeDelta_some
    (merges : mergeDelta last item = some merged) : MergedDelta last item merged := by
  unfold mergeDelta at merges
  split at merges
  · cases merges
    exact ⟨by simp [streamContent], ⟨_, _, rfl, rfl, by simp [streamDeltaBytes]⟩, rfl, rfl⟩
  · split at merges
    · next same =>
      cases merges
      cases same
      exact ⟨by simp [streamContent], ⟨_, _, rfl, rfl, by simp [streamDeltaBytes]⟩, rfl, rfl⟩
    · cases merges
  · cases merges

/-! ## The turn after an item was appended -/

section
variable (item : BrainWakeStreamItem) (now : OffsetDateTime) (turn : BufferedBrainTurnCoordinator)

theorem endedBy_stream : streamView (endedBy item now turn) = streamView turn := by
  unfold endedBy
  split <;> rfl

theorem appendedTurn_stream :
    streamView (appendedTurn item now turn) =
      { streamView turn with
        streamItems := turn.streamItems ++ [⟨turn.nextStreamSequence, item⟩]
        nextStreamSequence := turn.nextStreamSequence + 1
        rawStreamItemCount := saturatingAdd turn.rawStreamItemCount 1
        retainedStreamItemCount := saturatingAdd turn.retainedStreamItemCount 1
        queuedDeltaBytes := (streamDeltaBytes item).elim turn.queuedDeltaBytes
          (saturatingAdd turn.queuedDeltaBytes) } := by
  refine (endedBy_stream item now _).trans ?_
  unfold countedDelta
  cases streamDeltaBytes item <;> rfl

theorem appendedTurn_ended (terminal : item.isTerminal = true) :
    (appendedTurn item now turn).phase.isTerminal = true := by
  cases item with
  | event event => cases terminal
  | actions batch => rfl
  | wakeFailed failure => rfl

end

/-! ## No item is lost -/

def wholeStream (observed : ObservedTurn) : List SequencedBrainWakeStreamItem :=
  observed.history.drained ++ observed.turn.streamItems

structure Streamed (observed : ObservedTurn) : Prop where
  merged : Merges mergeDelta observed.history.accepted
    ((wholeStream observed).map SequencedBrainWakeStreamItem.item)
  numbered : (wholeStream observed).map SequencedBrainWakeStreamItem.sequence =
    List.range' 1 (wholeStream observed).length
  next : observed.turn.nextStreamSequence = (wholeStream observed).length + 1
  active : observed.turn.phase.isTerminal = false →
    ∀ entry ∈ wholeStream observed, entry.item.isTerminal = false
  last : ∀ entry ∈ (wholeStream observed).dropLast, entry.item.isTerminal = false

theorem Streamed.of_same (streamed : Streamed before)
    (stream : wholeStream after = wholeStream before)
    (accepted : after.history.accepted = before.history.accepted)
    (next : after.turn.nextStreamSequence = before.turn.nextStreamSequence)
    (active : after.turn.phase.isTerminal = false → before.turn.phase.isTerminal = false) :
    Streamed after := by
  refine ⟨?_, ?_, ?_, ?_, ?_⟩
  · rw [stream, accepted]
    exact streamed.merged
  · rw [stream]
    exact streamed.numbered
  · rw [stream, next]
    exact streamed.next
  · rw [stream]
    exact fun still => streamed.active (active still)
  · rw [stream]
    exact streamed.last

theorem streamed_coalesced (streamed : Streamed before)
    (running : before.turn.phase = .running) (queue : before.turn.streamItems = front ++ [last])
    (merges : mergeDelta last.item item = some merged)
    (items : after.turn.streamItems = front ++ [⟨last.sequence, merged⟩])
    (next : after.turn.nextStreamSequence = before.turn.nextStreamSequence)
    (accepted : after.history.accepted = before.history.accepted ++ [item])
    (drained : after.history.drained = before.history.drained) : Streamed after := by
  have old : wholeStream before = (before.history.drained ++ front) ++ [last] := by
    rw [wholeStream, queue, append_assoc]
  have new : wholeStream after =
      (before.history.drained ++ front) ++ [⟨last.sequence, merged⟩] := by
    rw [wholeStream, items, drained, append_assoc]
  have active := streamed.active (by rw [running]; rfl)
  rw [old] at active
  have joined := mergeDelta_some merges
  refine ⟨?_, ?_, ?_, fun _ entry member => ?_, fun entry member => ?_⟩
  · have before := streamed.merged
    rw [old, map_append, map_singleton] at before
    rw [new, accepted, map_append, map_singleton]
    exact before.append_merged merges
  · have before := streamed.numbered
    rw [old] at before
    rw [new]
    simpa using before
  · rw [next, streamed.next, old, new]
    simp
  · rw [new] at member
    rcases mem_append.mp member with old | new
    · exact active entry (mem_append_left _ old)
    · cases mem_singleton.mp new
      exact joined.merged
  · rw [new, dropLast_concat] at member
    exact active entry (mem_append_left _ member)

theorem streamed_appended (streamed : Streamed before) (running : before.turn.phase = .running)
    (items : after.turn.streamItems = before.turn.streamItems ++ [⟨before.turn.nextStreamSequence,
      item⟩]) (next : after.turn.nextStreamSequence = before.turn.nextStreamSequence + 1)
    (ends : item.isTerminal = true → after.turn.phase.isTerminal = true)
    (accepted : after.history.accepted = before.history.accepted ++ [item])
    (drained : after.history.drained = before.history.drained) : Streamed after := by
  have new : wholeStream after =
      wholeStream before ++ [⟨before.turn.nextStreamSequence, item⟩] := by
    rw [wholeStream, wholeStream, items, drained, append_assoc]
  have active := streamed.active (by rw [running]; rfl)
  refine ⟨?_, ?_, ?_, fun still entry member => ?_, fun entry member => ?_⟩
  · rw [new, accepted, map_append, map_singleton]
    exact streamed.merged.append_item item
  · rw [new, map_append, length_append, length_singleton, range'_concat,
      streamed.numbered, map_singleton, streamed.next]
    simp [Nat.add_comm]
  · rw [next, streamed.next, new, length_append, length_singleton]
  · rw [new] at member
    rcases mem_append.mp member with old | new
    · exact active entry old
    · cases mem_singleton.mp new
      by_contra terminal
      rw [Bool.not_eq_false] at terminal
      have ended := ends terminal
      rw [still] at ended
      cases ended
  · rw [new, dropLast_concat] at member
    exact active entry member

theorem moves_streamed (streamed : Streamed before) (moves : Moves call before after) :
    Streamed after := by
  have active := moves.tools.active
  cases moves.stream with
  | idle stream accepted drained =>
    refine streamed.of_same ?_ accepted (congrArg StreamView.nextStreamSequence stream) active
    rw [wholeStream, drained, wholeStream]
    exact congrArg (_ ++ ·) (congrArg StreamView.streamItems stream)
  | drained items rest queue stream accepted drained =>
    refine streamed.of_same ?_ accepted (congrArg StreamView.nextStreamSequence stream) active
    have left : after.turn.streamItems = rest := congrArg StreamView.streamItems stream
    rw [wholeStream, drained, left, wholeStream, queue, append_assoc]
  | enqueued item now sequence outcome accepted drained =>
    cases outcome with
    | rejected _ result => cases result
    | coalesced front last merged deltaBytes running queue merges delta fits result =>
      have turn := congrArg Prod.snd result
      refine streamed_coalesced streamed running queue merges ?_ ?_ accepted drained
      · rw [show after.turn = _ from turn]
        rfl
      · rw [show after.turn = _ from turn]
        rfl
    | appended running room left fits _ result =>
      have turn : after.turn = appendedTurn item now before.turn := congrArg Prod.snd result
      have stream := appendedTurn_stream item now before.turn
      rw [← turn] at stream
      refine streamed_appended streamed running (congrArg StreamView.streamItems stream)
        (congrArg StreamView.nextStreamSequence stream) (fun terminal => ?_) accepted drained
      rw [turn]
      exact appendedTurn_ended item now before.turn terminal

section
variable {moduleId wakeId : String} {sessionId : SessionId} {limits : BufferedBrainTurnLimits}
  (created : newAt moduleId wakeId sessionId limits now = .ok turn)
include created

theorem streamed_fresh : Streamed ⟨turn, {}⟩ := by
  simp only [newAt, bind_eq_ok, pure_eq_ok] at created
  obtain ⟨valid, -, rfl⟩ := created
  exact ⟨merges_nil, rfl, rfl, fun _ entry member => (by cases member), fun entry member => by
    cases member⟩

theorem streamed_run (calls) : Streamed (run ObservedTurn.step ⟨turn, {}⟩ calls) :=
  (run_moves created calls (fun _ _ _ => moves_streamed) (streamed_fresh created)).2

end

structure Lossless (observed : ObservedTurn) : Prop where
  /-- What was drained and what is queued are the accepted items with adjacent deltas merged. -/
  merged : Merges mergeDelta observed.history.accepted
    ((observed.history.drained ++ observed.turn.streamItems).map SequencedBrainWakeStreamItem.item)
  /-- So they carry the same characters and other items in the same order. -/
  content : observed.history.accepted.flatMap streamContent =
    (observed.history.drained ++ observed.turn.streamItems).flatMap fun entry =>
      streamContent entry.item
  numbered : observed.history.drained.map SequencedBrainWakeStreamItem.sequence =
    List.range' 1 observed.history.drained.length
  /-- Nothing is drained or left after a terminal item. -/
  terminal : ∀ before entry after, observed.history.drained = before ++ entry :: after →
    entry.item.isTerminal = true → after = [] ∧ observed.turn.streamItems = []
  reported : ∀ maxItems now, ∃ drain turn,
    drainStream maxItems now observed.turn = (.ok drain, turn) ∧
      (drain.terminal = true ↔ turn.phase.isTerminal = true ∧ turn.streamItems = [])

theorem drained_numbers (streamed : Streamed observed) :
    observed.history.drained.map SequencedBrainWakeStreamItem.sequence =
      List.range' 1 observed.history.drained.length := by
  have numbered := streamed.numbered
  rw [wholeStream, map_append, length_append, ← range'_append_1] at numbered
  exact (append_inj numbered (by simp)).1

theorem nothing_after_terminal (streamed : Streamed observed)
    {before after : List SequencedBrainWakeStreamItem} {entry : SequencedBrainWakeStreamItem}
    (drained : observed.history.drained = before ++ entry :: after)
    (terminal : entry.item.isTerminal = true) : after = [] ∧ observed.turn.streamItems = [] := by
  have last := streamed.last entry
  rw [wholeStream, drained, append_assoc, cons_append] at last
  rw [← append_eq_nil_iff]
  by_contra more
  rw [dropLast_append_of_ne_nil (by simp), dropLast_cons_of_ne_nil more] at last
  rw [last (by simp)] at terminal
  cases terminal

theorem stream_is_lossless (moduleId wakeId : String) (sessionId : SessionId)
    (limits : BufferedBrainTurnLimits) (now : OffsetDateTime) (turn : BufferedBrainTurnCoordinator)
    (created : newAt moduleId wakeId sessionId limits now = .ok turn) (calls : List TurnCall) :
    Lossless (run ObservedTurn.step ⟨turn, {}⟩ calls) := by
  have streamed := streamed_run created calls
  generalize run ObservedTurn.step ⟨turn, {}⟩ calls = observed at streamed
  refine ⟨streamed.merged, ?_, drained_numbers streamed, fun before entry after drained ends =>
    nothing_after_terminal streamed drained ends, fun maxItems now => ?_⟩
  · have content := streamed.merged.flatMap_eq fun last item merged merges =>
      (mergeDelta_some merges).content
    rw [flatMap_map] at content
    exact content
  · obtain ⟨drain, rest, at', -, drained, reported⟩ := drainStream_eq maxItems now observed.turn
    refine ⟨drain, _, drained, ?_⟩
    rw [reported, Bool.and_eq_true, List.isEmpty_iff]
    rfl

def sampleItem (event : BrainEvent) : BrainWakeStreamItem := .event ⟨"wake", ⟨"session"⟩, event⟩

def sampleStream : List TurnCall :=
  [.start sampleTime, .enqueueStreamItem (sampleItem (.textDelta "a")) sampleTime,
    .enqueueStreamItem (sampleItem (.textDelta "b")) sampleTime, .drainStream 1 sampleTime,
    .enqueueStreamItem (sampleItem (.textDelta "c")) sampleTime,
    .enqueueStreamItem (.actions ⟨"wake", ⟨"session"⟩, []⟩) sampleTime,
    .drainStream 5 sampleTime]

theorem stream_is_lossless_sample :
    ∃ turn, newAt "module" "wake" ⟨"session"⟩ {} sampleTime = .ok turn ∧
      let observed := run ObservedTurn.step ⟨turn, {}⟩ sampleStream
      observed.history.drained =
          [⟨1, sampleItem (.textDelta "ab")⟩, ⟨2, sampleItem (.textDelta "c")⟩,
            ⟨3, .actions ⟨"wake", ⟨"session"⟩, []⟩⟩] ∧
        Lossless observed :=
  ⟨_, rfl, by decide +kernel,
    stream_is_lossless "module" "wake" ⟨"session"⟩ {} sampleTime _ rfl sampleStream⟩

end RustyCrew.Proof.Brain

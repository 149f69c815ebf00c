import RustyCrew.Proof.Coordination.Store

namespace RustyCrew.Proof.Coordination

open Library Protocol RustyCrew.Coordination ExternalTables Table List

/-! ## The summary of a compaction -/

def total (counts : List (String × Nat)) : Nat := (counts.map (·.2)).sum

@[simp] theorem total_addCount (kind : String) (count : Nat) (counts : List (String × Nat)) :
    total (addCount kind count counts) = total counts + count := by
  induction counts with
  | nil => simp [addCount, total]
  | cons entry rest ih =>
    obtain ⟨known, found⟩ := entry
    simp only [total, map_cons, sum_cons] at ih ⊢
    rw [addCount]
    split
    · simp only [map_cons, sum_cons]
      omega
    · split
      · simp only [map_cons, sum_cons]
        omega
      · simp only [map_cons, sum_cons, ih]
        omega

theorem total_merge (known counts : List (String × Nat)) :
    total (known.foldl (fun counts entry => addCount entry.1 entry.2 counts) counts) =
      total counts + total known := by
  induction known generalizing counts with
  | nil => simp [total]
  | cons entry rest ih =>
    rw [foldl_cons, ih, total_addCount, total, total, total, map_cons, sum_cons]
    omega

theorem length_filter_or {α : Type} {p q : α → Bool} (items : List α)
    (disjoint : ∀ item, p item = true → q item = false) :
    (items.filter fun item => p item || q item).length =
      (items.filter p).length + (items.filter q).length := by
  induction items with
  | nil => rfl
  | cons item rest ih =>
    simp only [filter_cons]
    cases onP : p item with
    | true =>
      simp only [disjoint item onP, Bool.true_or, if_true, Bool.false_eq_true, if_false,
        length_cons, ih]
      omega
    | false =>
      cases q item <;>
        simp only [Bool.false_or, if_true, Bool.false_eq_true, if_false, length_cons, ih]
      omega

def Within (sequence : Nat) (summary : CompactionSummary) : Prop :=
  ∃ first last, summary.firstSequence = some first ∧ summary.lastSequence = some last ∧
    first ≤ sequence ∧ sequence ≤ last

section
variable {jsonLength : NormalizedExternalRuntimeEvent → Nat}
  {rows : List NormalizedExternalRuntimeEvent}

theorem within_add {sequence : Nat} (row : KindAggregate)
    (within : Within sequence summary ∨ row.first ≤ sequence ∧ sequence ≤ row.last) :
    Within sequence (summary.add row) := by
  refine ⟨_, _, rfl, rfl, ?_⟩
  obtain ⟨first, last, isFirst, isLast, above, below⟩ | ⟨above, below⟩ := within
  · rw [isFirst, isLast, Option.elim_some, Option.elim_some]
    omega
  · cases summary.firstSequence <;> cases summary.lastSequence <;>
      simp only [Option.elim_none, Option.elim_some] <;> omega

theorem within_foldl {sequence : Nat} (aggregates : List KindAggregate)
    (within : Within sequence summary ∨
      ∃ row ∈ aggregates, row.first ≤ sequence ∧ sequence ≤ row.last) :
    Within sequence (aggregates.foldl CompactionSummary.add summary) := by
  induction aggregates generalizing summary with
  | nil => simpa using within
  | cons row rest ih =>
    apply ih
    obtain within | ⟨found, member, bounds⟩ := within
    · exact .inl (within_add row (.inl within))
    · obtain rfl | member := mem_cons.mp member
      · exact .inl (within_add found (.inr bounds))
      · exact .inr ⟨found, member, bounds⟩

theorem counts_foldl (aggregates : List KindAggregate) :
    (aggregates.foldl CompactionSummary.add summary).eventCount =
        summary.eventCount + (aggregates.map (·.count)).sum ∧
      total (aggregates.foldl CompactionSummary.add summary).kindCounts =
        total summary.kindCounts + (aggregates.map (·.count)).sum := by
  induction aggregates generalizing summary with
  | nil => simp
  | cons row rest ih =>
    rw [foldl_cons, ih.1, ih.2]
    simp only [CompactionSummary.add, total_addCount, map_cons, sum_cons]
    omega

theorem foldl_bounds {f : Nat → Nat → Nat} {r : Nat → Nat → Prop} [Std.Refl r] [IsTrans Nat r]
    (bounds : ∀ a b, r (f a b) a ∧ r (f a b) b) (sequences : List Nat) (start : Nat) :
    r (sequences.foldl f start) start ∧ ∀ s ∈ sequences, r (sequences.foldl f start) s := by
  induction sequences generalizing start with
  | nil => simp [refl_of r start]
  | cons s rest ih =>
    obtain ⟨first, each⟩ := ih (f start s)
    rw [foldl_cons, forall_mem_cons]
    exact ⟨trans_of r first (bounds start s).1, trans_of r first (bounds start s).2, each⟩

theorem kindAggregate_count (kind : String) :
    ((kindAggregate jsonLength rows kind).map (·.count)).getD 0 =
      (rows.filter fun event => event.kind = kind).length := by
  rw [kindAggregate]
  split
  · next none => rw [none, Option.map_none, Option.getD_none, length_nil]
  · next first rest group => rw [group, Option.map_some, Option.getD_some, length_cons]

theorem kindAggregate_spans (isRow : event ∈ rows) :
    ∃ row, kindAggregate jsonLength rows event.kind = some row ∧ row.first ≤ event.sequenceId ∧
      event.sequenceId ≤ row.last := by
  have member : event ∈ rows.filter fun other => other.kind = event.kind := by simp [isRow]
  rw [kindAggregate]
  split
  · next none =>
    rw [none] at member
    cases member
  · next first rest group =>
    rw [group] at member
    obtain ⟨least, eachAbove⟩ := foldl_bounds (f := min) (r := (· ≤ ·)) (by omega)
      (rest.map (·.sequenceId)) first.sequenceId
    obtain ⟨greatest, eachBelow⟩ := foldl_bounds (f := max) (r := (· ≥ ·)) (by omega)
      (rest.map (·.sequenceId)) first.sequenceId
    refine ⟨_, rfl, ?_⟩
    obtain rfl | member := mem_cons.mp member
    · exact ⟨least, greatest⟩
    · have isSequence := mem_map_of_mem (f := (·.sequenceId)) member
      exact ⟨eachAbove _ isSequence, eachBelow _ isSequence⟩

theorem sum_counts_of_kinds {kinds : List String} (distinct : kinds.Nodup) :
    ((kinds.filterMap (kindAggregate jsonLength rows)).map (·.count)).sum =
      (rows.filter fun event => kinds.contains event.kind).length := by
  induction kinds with
  | nil => simp
  | cons kind rest ih =>
    obtain ⟨absent, distinct⟩ := nodup_cons.mp distinct
    have apart : (rows.filter fun event => (kind :: rest).contains event.kind).length =
        (rows.filter fun event => event.kind = kind).length +
          (rows.filter fun event => rest.contains event.kind).length := by
      rw [← length_filter_or]
      · congr 2
      · intro event same
        rw [decide_eq_true_eq] at same
        simpa [same] using absent
    rw [apart, ← ih distinct, ← @kindAggregate_count jsonLength rows kind, filterMap_cons]
    cases kindAggregate jsonLength rows kind <;> simp

theorem compactionSummary_counts (details : ∀ event ∈ rows, detailKinds.contains event.kind) :
    (compactionSummary jsonLength rows).eventCount = rows.length ∧
      total (compactionSummary jsonLength rows).kindCounts = rows.length := by
  have counted := @sum_counts_of_kinds jsonLength rows detailKinds (by decide)
  rw [filter_eq_self.mpr details] at counted
  rw [compactionSummary, (counts_foldl _).1, (counts_foldl _).2, counted]
  simp [total]

theorem compactionSummary_spans (details : ∀ event ∈ rows, detailKinds.contains event.kind)
    (isRow : event ∈ rows) : Within event.sequenceId (compactionSummary jsonLength rows) := by
  obtain ⟨row, isGroup, bounds⟩ := @kindAggregate_spans jsonLength rows event isRow
  apply within_foldl
  refine .inr ⟨row, mem_filterMap.mpr ⟨event.kind, ?_, isGroup⟩, bounds⟩
  simpa using details event isRow

end

/-! ## Events that are stored, compacted and appended -/

def compactedCount (tables : ExternalTables) (runtimeId : ExternalRuntimeId) (native : String) :
    Nat :=
  ((tables.checkpoints.find? (runtimeId, native)).map (·.compactedEventCount)).getD 0

def Compacted (tables : ExternalTables) (event : NormalizedExternalRuntimeEvent) : Prop :=
  ∃ native checkpoint, event.nativeTurnId = some native ∧
    tables.checkpoints.find? (event.runtimeId, native) = some checkpoint ∧
    checkpoint.firstSequenceId ≤ event.sequenceId ∧ event.sequenceId ≤ checkpoint.lastSequenceId

/-- The tables account for every event appended so far. -/
structure Conserved (tables : ExternalTables) (log : List NormalizedExternalRuntimeEvent) :
    Prop where
  counted : ∀ runtimeId native, (tables.events.select (ofNativeTurn runtimeId native)).length +
      compactedCount tables runtimeId native = (log.filter (ofNativeTurn runtimeId native)).length
  summed : ∀ checkpoint ∈ tables.checkpoints.rows,
    total checkpoint.kindCounts = checkpoint.compactedEventCount
  kept : ∀ event ∈ log, event ∈ tables.events.rows ∨ Compacted tables event

/-- The cursors are ahead of every event appended so far. -/
structure Sequenced (tables : ExternalTables) (log : List NormalizedExternalRuntimeEvent) :
    Prop where
  stored : ∀ event ∈ tables.events.rows, event ∈ log
  below : ∀ event ∈ log, ∃ cursor, tables.cursors.find? event.runtimeId = some cursor ∧
    event.sequenceId < cursor.nextSequenceId
  ordered : log.Pairwise fun earlier later =>
    earlier.runtimeId = later.runtimeId → earlier.sequenceId < later.sequenceId

section
variable {tables : ExternalTables} {event : NormalizedExternalRuntimeEvent} {native : String}

theorem ofNativeTurn_of_detailOf (detail : detailOf runtimeId native event = true) :
    ofNativeTurn runtimeId native event = true := by
  rw [detailOf, Bool.and_eq_true] at detail
  exact detail.1

theorem ofNativeTurn_iff : ofNativeTurn runtimeId native event = true ↔
    event.runtimeId = runtimeId ∧ event.nativeTurnId = some native := by
  simp [ofNativeTurn]

theorem stored_split (events : Table NormalizedExternalRuntimeEvent.eventId) :
    (events.select (ofNativeTurn runtimeId native)).length =
      ((events.discard (detailOf runtimeId native)).select (ofNativeTurn runtimeId native)).length +
        (events.select (detailOf runtimeId native)).length := by
  simp only [Table.select, Table.discard, filter_filter]
  rw [← length_filter_or]
  · congr 2
    funext event
    cases detail : detailOf runtimeId native event with
    | true => simp [ofNativeTurn_of_detailOf detail]
    | false => simp
  · intro event other
    simp only [Bool.and_eq_true, Bool.not_eq_true'] at other
    exact other.2

theorem stored_other (apart : other ≠ (runtimeId, native))
    (events : Table NormalizedExternalRuntimeEvent.eventId) :
    (events.discard (detailOf runtimeId native)).select (ofNativeTurn other.1 other.2) =
      events.select (ofNativeTurn other.1 other.2) := by
  simp only [Table.select, Table.discard, filter_filter]
  apply filter_congr
  intro event _
  cases own : ofNativeTurn other.1 other.2 event with
  | false => rfl
  | true =>
    cases detail : detailOf runtimeId native event with
    | false => rfl
    | true =>
      obtain ⟨sameRuntime, sameTurn⟩ := ofNativeTurn_iff.mp own
      obtain ⟨isRuntime, isTurn⟩ :=
        ofNativeTurn_iff.mp (ofNativeTurn_of_detailOf detail)
      rw [sameTurn, Option.some.injEq] at isTurn
      exact absurd (Prod.ext (sameRuntime.symm.trans isRuntime) isTurn) apart

theorem compactTurn_cases (jsonLength : NormalizedExternalRuntimeEvent → Nat)
    (cutoff checkpointedAt : IsoTimestamp) (tables report turn) :
    (compactTurn jsonLength cutoff checkpointedAt (tables, report) turn).1 = tables ∨
      ∃ native first last, native = turn.nativeTurnId.getD "" ∧
        let summary := compactionSummary jsonLength
          (tables.events.select (detailOf turn.runtimeId native))
        summary.firstSequence = some first ∧ summary.lastSequence = some last ∧
        (compactTurn jsonLength cutoff checkpointedAt (tables, report) turn).1 = { tables with
            checkpoints := tables.checkpoints.put (mergedCheckpoint turn native summary first last
              checkpointedAt cutoff (tables.checkpoints.find? (turn.runtimeId, native)))
            events := tables.events.discard (detailOf turn.runtimeId native) } := by
  rw [compactTurn]
  split
  · next first last isFirst isLast =>
    exact .inr ⟨turn.nativeTurnId.getD "", first, last, rfl, isFirst, isLast, rfl⟩
  · exact .inl rfl

theorem conserved_compacted (conserved : Conserved tables log)
    (isSummary : summary = compactionSummary jsonLength
      (tables.events.select (detailOf turn.runtimeId native)))
    (isFirst : summary.firstSequence = some first) (isLast : summary.lastSequence = some last) :
    Conserved { tables with
      checkpoints := tables.checkpoints.put (mergedCheckpoint turn native summary first last
        checkpointedAt cutoff (tables.checkpoints.find? (turn.runtimeId, native)))
      events := tables.events.discard (detailOf turn.runtimeId native) } log := by
  have details : ∀ event ∈ tables.events.select (detailOf turn.runtimeId native),
      detailKinds.contains event.kind := by
    intro event member
    have detail := (mem_select.mp member).2
    rw [detailOf, Bool.and_eq_true] at detail
    exact detail.2
  obtain ⟨events, kinds⟩ := @compactionSummary_counts jsonLength _ details
  rw [← isSummary] at events kinds
  have key : (mergedCheckpoint turn native summary first last checkpointedAt cutoff
      (tables.checkpoints.find? (turn.runtimeId, native))).turn = (turn.runtimeId, native) := rfl
  constructor
  · intro runtimeId other
    rw [← conserved.counted, compactedCount, compactedCount, find?_put, key]
    by_cases same : (turn.runtimeId, native) = (runtimeId, other)
    · rw [if_pos same, ← same]
      obtain ⟨rfl, rfl⟩ := Prod.mk.inj same
      rw [stored_split tables.events, ← events]
      cases tables.checkpoints.find? (turn.runtimeId, native) with
      | none => simp [mergedCheckpoint]
      | some known =>
        simp only [mergedCheckpoint, Option.elim_some, Option.map_some, Option.getD_some]
        omega
    · rw [if_neg same, stored_other (Ne.symm same)]
  · intro checkpoint isRow
    rw [mem_put] at isRow
    obtain rfl | ⟨isRow, -⟩ := isRow
    · cases found : tables.checkpoints.find? (turn.runtimeId, native) with
      | none => simp [mergedCheckpoint, kinds, events]
      | some known =>
        have sums := conserved.summed known (mem_of_find? found)
        simp only [mergedCheckpoint, Option.elim_some]
        rw [total_merge, kinds, events, sums]
    · exact conserved.summed checkpoint isRow
  · intro event appended
    obtain stored | ⟨other, known, isTurn, found, above, below⟩ := conserved.kept event appended
    · cases detail : detailOf turn.runtimeId native event with
      | false => exact .inl (mem_discard.mpr ⟨stored, detail⟩)
      | true =>
        right
        obtain ⟨isRuntime, isTurn⟩ := ofNativeTurn_iff.mp (ofNativeTurn_of_detailOf detail)
        obtain ⟨least, greatest, isLeast, isGreatest, above, below⟩ :=
          @compactionSummary_spans jsonLength _ event details (mem_select.mpr ⟨stored, detail⟩)
        rw [← isSummary, isFirst, Option.some.injEq] at isLeast
        rw [← isSummary, isLast, Option.some.injEq] at isGreatest
        subst isLeast isGreatest
        refine ⟨native, _, isTurn, by rw [find?_put, key, isRuntime, if_pos rfl], ?_⟩
        cases tables.checkpoints.find? (turn.runtimeId, native) <;>
          simp only [mergedCheckpoint, Option.elim_none, Option.elim_some] <;> omega
    · right
      by_cases same : (turn.runtimeId, native) = (event.runtimeId, other)
      · refine ⟨other, _, isTurn, by rw [find?_put, key, if_pos same], ?_⟩
        rw [same, found]
        simp only [mergedCheckpoint, Option.elim_some]
        omega
      · exact ⟨other, known, isTurn, by rw [find?_put, key, if_neg same, found], above, below⟩

theorem conserved_compactTurns (candidates : List ExternalTurnCorrelation)
    (conserved : Conserved tables log) :
    Conserved (candidates.foldl (compactTurn jsonLength cutoff checkpointedAt)
      (tables, report)).1 log := by
  induction candidates generalizing tables report with
  | nil => exact conserved
  | cons turn rest ih =>
    rw [foldl_cons, ← Prod.mk.eta (p := compactTurn _ _ _ _ turn)]
    apply ih
    obtain same | ⟨native, first, last, -, isFirst, isLast, compacted⟩ :=
      compactTurn_cases jsonLength cutoff checkpointedAt tables report turn
    · rw [same]
      exact conserved
    · rw [compacted]
      exact conserved_compacted conserved rfl isFirst isLast

theorem stored_compactTurns (candidates : List ExternalTurnCorrelation)
    {report : ExternalRuntimeEventRetentionReport} :
    let after := (candidates.foldl (compactTurn jsonLength cutoff checkpointedAt)
      (tables, report)).1
    (∀ event ∈ after.events.rows, event ∈ tables.events.rows) ∧
      ∀ event ∈ tables.events.rows, event ∈ after.events.rows ∨
        ∃ turn ∈ candidates, detailOf turn.runtimeId (turn.nativeTurnId.getD "") event = true := by
  induction candidates generalizing tables report with
  | nil => exact ⟨fun _ => id, fun _ stored => .inl stored⟩
  | cons turn rest ih =>
    rw [foldl_cons, ← Prod.mk.eta (p := compactTurn _ _ _ _ turn)]
    obtain ⟨fewer, kept⟩ := @ih (compactTurn jsonLength cutoff checkpointedAt (tables, report)
      turn).1 (compactTurn jsonLength cutoff checkpointedAt (tables, report) turn).2
    have one : (∀ event ∈ (compactTurn jsonLength cutoff checkpointedAt (tables, report)
        turn).1.events.rows, event ∈ tables.events.rows) ∧
        ∀ event ∈ tables.events.rows,
          event ∈ (compactTurn jsonLength cutoff checkpointedAt (tables, report)
            turn).1.events.rows ∨
          detailOf turn.runtimeId (turn.nativeTurnId.getD "") event = true := by
      obtain same | ⟨native, first, last, rfl, -, -, compacted⟩ :=
        compactTurn_cases jsonLength cutoff checkpointedAt tables report turn
      · rw [same]
        exact ⟨fun _ => id, fun _ stored => .inl stored⟩
      · rw [compacted]
        constructor
        · exact fun event stored => (mem_discard.mp stored).1
        · intro event stored
          cases detail : detailOf turn.runtimeId (turn.nativeTurnId.getD "") event with
          | true => exact .inr rfl
          | false => exact .inl (mem_discard.mpr ⟨stored, detail⟩)
    constructor
    · exact fun event stored => one.1 event (fewer event stored)
    · intro event stored
      obtain stored | detail := one.2 event stored
      · obtain stored | ⟨found, member, detail⟩ := kept event stored
        · exact .inl stored
        · exact .inr ⟨found, mem_cons_of_mem _ member, detail⟩
      · exact .inr ⟨turn, mem_cons_self, detail⟩

/-! ## Appending -/

theorem conserved_append (conserved : Conserved tables log) (event)
    (cursors : Table ExternalRuntimeEventCursor.runtimeId)
    (absent : tables.events.find? event.eventId = none) :
    Conserved { tables with cursors := cursors, events := tables.events.put event }
      (log ++ [event]) := by
  constructor
  · intro runtimeId native
    have before := conserved.counted runtimeId native
    rw [select_put_of_absent absent, length_append, filter_append, length_append, ← before]
    cases own : ofNativeTurn runtimeId native event with
    | true =>
      simp only [compactedCount, filter_cons, own, if_true, filter_nil, length_singleton]
      omega
    | false => simp [compactedCount, own]
  · exact conserved.summed
  · intro other appended
    rw [mem_append, mem_singleton] at appended
    obtain appended | rfl := appended
    · obtain stored | compacted := conserved.kept other appended
      · exact .inl (mem_put.mpr (.inr ⟨stored, find?_eq_none.mp absent other stored⟩))
      · exact .inr compacted
    · exact .inl (mem_put.mpr (.inl rfl))

theorem Sequenced.below_next (sequenced : Sequenced tables log) (appended : event ∈ log) :
    event.sequenceId < tables.nextSequence event.runtimeId := by
  obtain ⟨cursor, found, below⟩ := sequenced.below event appended
  rw [nextSequence, found]
  exact below

theorem sequenced_append (sequenced : Sequenced tables log)
    (isEvent : event = normalizedEventFromInput input (tables.nextSequence input.runtimeId)) :
    Sequenced { tables with
      cursors := tables.cursors.put ⟨input.runtimeId, tables.nextSequence input.runtimeId + 1⟩
      events := tables.events.put event } (log ++ [event]) := by
  have isRuntime : event.runtimeId = input.runtimeId := by rw [isEvent]; rfl
  have isNext : event.sequenceId = tables.nextSequence input.runtimeId := by rw [isEvent]; rfl
  constructor
  · intro other stored
    rw [mem_append, mem_singleton]
    obtain rfl | ⟨stored, -⟩ := mem_put.mp stored
    · exact .inr rfl
    · exact .inl (sequenced.stored other stored)
  · intro other appended
    rw [find?_put]
    rw [mem_append, mem_singleton] at appended
    obtain appended | rfl := appended
    · by_cases own : input.runtimeId = other.runtimeId
      · have below := sequenced.below_next appended
        rw [← own] at below
        exact ⟨_, if_pos own, Nat.lt_succ_of_lt below⟩
      · obtain ⟨cursor, found, below⟩ := sequenced.below other appended
        exact ⟨cursor, by rw [if_neg own, found], below⟩
    · exact ⟨_, if_pos isRuntime.symm, by rw [isNext]; exact Nat.lt_succ_self _⟩
  · rw [pairwise_append]
    refine ⟨sequenced.ordered, pairwise_singleton _ _, ?_⟩
    intro earlier appended later isLater same
    rw [mem_singleton] at isLater
    rw [isLater, isNext, ← isRuntime, ← isLater, ← same]
    exact sequenced.below_next appended

end

/-! ## Whole runs -/

def appendedBy (tables : ExternalTables) : StoreCall → List NormalizedExternalRuntimeEvent
  | .appendEvent input =>
    match tables.events.find? input.eventId, tables.appendExternalRuntimeEventAllocated input with
    | none, .ok (event, _) => [event]
    | _, _ => []
  | _ => []

structure Recorded where
  tables : ExternalTables
  log : List NormalizedExternalRuntimeEvent

def Recorded.serve (jsonLength : NormalizedExternalRuntimeEvent → Nat) (state : Recorded)
    (call : StoreCall) : Recorded :=
  ⟨state.tables.serve jsonLength call, state.log ++ appendedBy state.tables call⟩

def recordedRun (jsonLength : NormalizedExternalRuntimeEvent → Nat) (calls : List StoreCall) :
    Recorded :=
  run (Recorded.serve jsonLength) ⟨ExternalTables.empty, []⟩ calls

section
variable {tables : ExternalTables} {jsonLength : NormalizedExternalRuntimeEvent → Nat}

def Faithful (state : Recorded) : Prop :=
  Conserved state.tables state.log ∧ Sequenced state.tables state.log

section
variable (faithful : Faithful ⟨tables, log⟩)
include faithful

theorem faithful_other (other : touchesEvents call = false) :
    Faithful ⟨tables.serve jsonLength call, log⟩ := by
  obtain ⟨conserved, sequenced⟩ := faithful
  have framed := serve_frame tables jsonLength call
  have events := framed.events other
  have checkpoints := framed.checkpoints other
  constructor
  · constructor
    · intro runtimeId native
      rw [compactedCount, events, checkpoints]
      exact conserved.counted runtimeId native
    · rw [checkpoints]
      exact conserved.summed
    · intro event appended
      rw [events, Compacted, checkpoints]
      exact conserved.kept event appended
  · constructor
    · rw [events]
      exact sequenced.stored
    · rw [framed.cursors other]
      exact sequenced.below
    · exact sequenced.ordered

theorem faithful_append (input) :
    Faithful (Recorded.serve jsonLength ⟨tables, log⟩ (.appendEvent input)) := by
  rw [Recorded.serve, ExternalTables.serve, appendedBy]
  cases done : tables.appendExternalRuntimeEventAllocated input with
  | error failure => simpa [settled, done] using faithful
  | ok answer =>
    obtain ⟨event, after⟩ := answer
    obtain ⟨found, rfl⟩ | ⟨absent, isEvent, rfl⟩ := appendExternalRuntimeEventAllocated_eq done
    · simpa [settled, done, found] using faithful
    · have isId : event.eventId = input.eventId := by rw [isEvent]; rfl
      simp only [settled, absent]
      exact ⟨conserved_append faithful.1 event _ (isId ▸ absent),
        sequenced_append faithful.2 isEvent⟩

theorem faithful_compact (cutoff checkpointedAt : IsoTimestamp) (batchSize : Nat) :
    Faithful (Recorded.serve jsonLength ⟨tables, log⟩
      (.compactEvents cutoff checkpointedAt batchSize)) := by
  simp only [Recorded.serve, appendedBy, append_nil]
  apply @settled_of _ _ (fun after => Faithful ⟨after, log⟩) _ faithful
  intro report after done
  obtain ⟨fewer, -⟩ := @stored_compactTurns tables jsonLength cutoff checkpointedAt
    (tables.compactionCandidates cutoff batchSize)
    (startedReport cutoff batchSize (tables.compactionCandidates cutoff batchSize).length)
  obtain ⟨events, checkpoints, frame⟩ := @compactTurn_frame tables jsonLength cutoff checkpointedAt
    (startedReport cutoff batchSize (tables.compactionCandidates cutoff batchSize).length)
    (tables.compactionCandidates cutoff batchSize)
  rw [compactTerminalExternalRuntimeEvents_eq done]
  refine ⟨conserved_compactTurns _ faithful.1, ?_, ?_, faithful.2.ordered⟩
  · exact fun event stored => faithful.2.stored event (fewer event stored)
  · rw [frame]
    exact faithful.2.below

end

theorem faithful_serve (state : Recorded) (call) (faithful : Faithful state) :
    Faithful (state.serve jsonLength call) := by
  cases call with
  | appendEvent input => exact faithful_append faithful input
  | compactEvents cutoff checkpointedAt batchSize =>
    exact faithful_compact faithful cutoff checkpointedAt batchSize
  | _ =>
    simp only [Recorded.serve, appendedBy, append_nil]
    exact faithful_other faithful rfl

theorem faithful_run (calls) : Faithful (recordedRun jsonLength calls) := by
  apply run_invariant_all
  · exact faithful_serve
  · constructor
    · constructor <;> simp [ExternalTables.empty, compactedCount, Table.select]
    · constructor <;> simp [ExternalTables.empty]

theorem stored_append (stored : event ∈ tables.events.rows) (input) :
    event ∈ (tables.serve jsonLength (.appendEvent input)).events.rows := by
  apply @settled_of _ _ (fun after => event ∈ after.events.rows) _ stored
  intro added after done
  obtain ⟨-, rfl⟩ | ⟨absent, isEvent, rfl⟩ := appendExternalRuntimeEventAllocated_eq done
  · exact stored
  · have isId : added.eventId = input.eventId := by rw [isEvent]; rfl
    exact mem_put.mpr (.inr ⟨stored, isId ▸ find?_eq_none.mp absent event stored⟩)

theorem deleted_by_compaction (stored : event ∈ tables.events.rows) (deleted : event ∉
      (tables.serve jsonLength (.compactEvents cutoff checkpointedAt batchSize)).events.rows) :
    detailKinds.contains event.kind = true ∧ ∃ turn ∈ tables.turns.rows,
      turn.phase.isTerminal = true ∧ turn.updatedAt < cutoff ∧
      turn.runtimeId = event.runtimeId ∧ turn.nativeTurnId = event.nativeTurnId := by
  rw [ExternalTables.serve] at deleted
  cases done : tables.compactTerminalExternalRuntimeEvents jsonLength cutoff checkpointedAt
      batchSize with
  | error failure =>
    rw [done] at deleted
    exact absurd stored deleted
  | ok answer =>
    obtain ⟨report, after⟩ := answer
    rw [done, settled, compactTerminalExternalRuntimeEvents_eq done] at deleted
    obtain kept | ⟨turn, candidate, detail⟩ := (stored_compactTurns _).2 event stored
    · exact absurd kept deleted
    · have selected := mem_of_mem_take candidate
      rw [mem_insertionSort, mem_select] at selected
      obtain ⟨isTurn, passes⟩ := selected
      simp only [Bool.and_eq_true, decide_eq_true_eq, Option.any_eq_true] at passes
      obtain ⟨⟨terminal, old⟩, native, isNative, -⟩ := passes
      rw [isNative, Option.getD_some] at detail
      obtain ⟨sameRuntime, sameTurn⟩ := ofNativeTurn_iff.mp (ofNativeTurn_of_detailOf detail)
      rw [detailOf, Bool.and_eq_true] at detail
      exact ⟨detail.2, turn, isTurn, terminal, old, sameRuntime.symm, isNative.trans sameTurn.symm⟩

end

/-- Sequence numbers of a runtime grow in the order of the appends; compaction deletes only detail
of old terminal turns, and no other call deletes an event; and for every turn what is stored and
what was compacted add up to what was appended, within the bounds of the checkpoint. -/
theorem events_accounted_for (jsonLength : NormalizedExternalRuntimeEvent → Nat)
    (calls : List StoreCall) :
    let state := recordedRun jsonLength calls
    (state.log.Pairwise fun earlier later =>
      earlier.runtimeId = later.runtimeId → earlier.sequenceId < later.sequenceId) ∧
    (∀ call, ∀ event ∈ state.tables.events.rows,
      event ∉ (state.tables.serve jsonLength call).events.rows →
      ∃ cutoff checkpointedAt batchSize, call = .compactEvents cutoff checkpointedAt batchSize ∧
        detailKinds.contains event.kind = true ∧ ∃ turn ∈ state.tables.turns.rows,
          turn.phase.isTerminal = true ∧ turn.updatedAt < cutoff ∧
          turn.runtimeId = event.runtimeId ∧ turn.nativeTurnId = event.nativeTurnId) ∧
    (∀ runtimeId native, (state.tables.events.select (ofNativeTurn runtimeId native)).length +
        compactedCount state.tables runtimeId native =
          (state.log.filter (ofNativeTurn runtimeId native)).length) ∧
    (∀ checkpoint ∈ state.tables.checkpoints.rows,
      total checkpoint.kindCounts = checkpoint.compactedEventCount) ∧
    (∀ event ∈ state.log, event ∉ state.tables.events.rows → Compacted state.tables event) := by
  intro state
  obtain ⟨conserved, sequenced⟩ := @faithful_run jsonLength calls
  refine ⟨sequenced.ordered, ?_, conserved.counted, conserved.summed, ?_⟩
  · intro call event stored deleted
    cases call with
    | compactEvents cutoff checkpointedAt batchSize =>
      exact ⟨cutoff, checkpointedAt, batchSize, rfl, deleted_by_compaction stored deleted⟩
    | appendEvent input => exact absurd (stored_append stored input) deleted
    | _ =>
      rw [(serve_frame state.tables jsonLength _).events rfl] at deleted
      exact absurd stored deleted
  · intro event appended gone
    exact (conserved.kept event appended).resolve_left gone

end RustyCrew.Proof.Coordination

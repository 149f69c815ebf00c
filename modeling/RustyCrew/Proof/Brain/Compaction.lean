import RustyCrew.Brain.Compaction

namespace RustyCrew.Proof.Brain

open Library RustyCrew.Library.Text Protocol RustyCrew.Brain List

/-! ## What the validator accepts -/

section
variable {boundary : BrainContextSafeCompactionBoundary} {compacted retained : Finset String}

structure Placed (boundary : BrainContextSafeCompactionBoundary)
    (compacted retained : Finset String)
    (index : Nat) (item : BrainContextCompactionItem) : Prop where
  once : ¬(item.sourceRef ∈ compacted ↔ item.sourceRef ∈ retained)
  below : item.sourceRef ∈ compacted → index < boundary.compactBeforeItem
  completed : item.sourceRef ∈ compacted → item.toolExchangeCompleted = true

theorem validatePartition_eq_ok :
    validatePartition boundary compacted retained index items = .ok u ↔
      ∀ offset item, items[offset]? = some item →
        Placed boundary compacted retained (index + offset) item := by
  induction items generalizing index with
  | nil => simp [validatePartition]
  | cons item rest ih =>
    simp only [validatePartition, bind_eq_ok, rejectIf_eq_ok, ih]
    constructor
    · rintro ⟨-, once, -, below, -, completed, placed⟩ offset other found
      cases offset with
      | zero =>
        obtain rfl : item = other := by simpa using found
        exact ⟨once, by simpa using below, by simpa using completed⟩
      | succ offset =>
        have later := placed offset other (by simpa using found)
        rwa [show index + (offset + 1) = index + 1 + offset by omega]
    · intro placed
      obtain ⟨once, below, completed⟩ := placed 0 item (by simp)
      refine ⟨(), once, (), by simpa using below, (), by simpa using completed, ?_⟩
      intro offset other found
      have later := placed (offset + 1) other (by simpa using found)
      rwa [show index + (offset + 1) = index + 1 + offset by omega] at later

end

section
variable {input : BrainContextCompactionStrategyInput} {strategy : BrainContextCompactionStrategy}
variable {decision : BrainContextCompactionPreservationDecision}

structure Partitions (input : BrainContextCompactionStrategyInput)
    (decision : BrainContextCompactionPreservationDecision) : Prop where
  disjoint : ∀ ref ∈ decision.compactedSourceRefs, ref ∉ decision.retainedSourceRefs
  covers : ∀ ref, ref ∈ decision.compactedSourceRefs ∨ ref ∈ decision.retainedSourceRefs ↔
    ref ∈ input.snapshot.items.map BrainContextCompactionItem.sourceRef
  compactsBelow : ∃ index item, input.snapshot.items[index]? = some item ∧
    index < input.safeBoundary.compactBeforeItem ∧ item.sourceRef ∈ decision.compactedSourceRefs
  keepsAbove : ∀ index item, input.snapshot.items[index]? = some item →
    input.safeBoundary.compactBeforeItem ≤ index → item.sourceRef ∉ decision.compactedSourceRefs

def KnownReferences (input : BrainContextCompactionStrategyInput)
    (decision : BrainContextCompactionPreservationDecision) : Prop :=
  ∀ ref ∈ decision.compactedSourceRefs ++ decision.retainedSourceRefs,
    ref ∈ input.snapshot.items.map BrainContextCompactionItem.sourceRef

theorem toFinset_card_eq {refs : List String} : refs.toFinset.card = refs.length ↔ refs.Nodup :=
  Multiset.toFinset_card_eq_card_iff_nodup

theorem accepted_decision
    (accepted : validateCompactionStrategyDecision input strategy decision = .ok u) :
    decision.compactedSourceRefs ≠ [] ∧
      (∀ ref ∈ decision.compactedSourceRefs, ref ∉ decision.retainedSourceRefs) ∧
      ∀ index item, input.snapshot.items[index]? = some item →
        Placed input.safeBoundary decision.compactedSourceRefs.toFinset
          decision.retainedSourceRefs.toFinset index item := by
  simp only [validateCompactionStrategyDecision, bind_eq_ok, rejectIf_eq_ok, not_or, not_not,
    validatePartition_eq_ok, Nat.zero_add] at accepted
  obtain ⟨-, -, -, -, -, ⟨-, nonempty⟩, -, -, -, ⟨-, -, disjoint⟩, placed⟩ := accepted
  refine ⟨nonempty, ?_, placed⟩
  intro ref compacted
  simpa using Finset.disjoint_left.mp disjoint (mem_toFinset.mpr compacted)

theorem partitions_of_known
    (accepted : validateCompactionStrategyDecision input strategy decision = .ok ())
    (known : KnownReferences input decision) : Partitions input decision := by
  obtain ⟨nonempty, disjoint, placed⟩ := accepted_decision accepted
  refine ⟨disjoint, fun ref => ⟨fun member => known ref (mem_append.mpr member), ?_⟩, ?_, ?_⟩
  · intro member
    obtain ⟨item, isItem, rfl⟩ := mem_map.mp member
    obtain ⟨index, found⟩ := mem_iff_getElem?.mp isItem
    have once := (placed index item found).once
    simp only [mem_toFinset] at once
    tauto
  · obtain ⟨ref, compacted⟩ := exists_mem_of_ne_nil _ nonempty
    obtain ⟨item, isItem, rfl⟩ := mem_map.mp (known ref (mem_append_left _ compacted))
    obtain ⟨index, found⟩ := mem_iff_getElem?.mp isItem
    exact ⟨index, item, found, (placed index item found).below (mem_toFinset.mpr compacted),
      compacted⟩
  · intro index item found above compacted
    have below := (placed index item found).below (mem_toFinset.mpr compacted)
    omega

theorem accepted_decisions_partition_iff
    (accepted : validateCompactionStrategyDecision input strategy decision = .ok ()) :
    Partitions input decision ↔ KnownReferences input decision := by
  constructor
  · intro partitions ref member
    exact (partitions.covers ref).mp (mem_append.mp member)
  · exact partitions_of_known accepted

end

def twoItems : BrainContextCompactionStrategyInput where
  snapshot := ⟨"projection", [⟨"old", "user", "hi", none, true, .null⟩,
    ⟨"current", "user", "go", none, false, .null⟩]⟩
  policy := ⟨true, true, "strategy", 1000, 80, 40⟩
  safeBoundary := ⟨"before-1", 1, none⟩
  domainContext := none
  parentArtifactId := none

def twoItemsDecision (compacted retained : List String) :
    BrainContextCompactionPreservationDecision :=
  ⟨"strategy", "v1", "summary", compacted, retained, .null, ⟨"projection", "before-1", none⟩,
    .exact, []⟩

def twoItemsStrategy (compacted retained : List String) : BrainContextCompactionStrategy :=
  ⟨"strategy", "v1", fun _ => some (.ok (twoItemsDecision compacted retained))⟩

theorem accepted_decisions_partition_sample :
    let strategy := twoItemsStrategy ["old"] ["current"]
    let decision := twoItemsDecision ["old"] ["current"]
    (validateCompactionStrategyDecision twoItems strategy decision = .ok () ∧
      KnownReferences twoItems decision) ∧ Partitions twoItems decision :=
  have accepted : validateCompactionStrategyDecision twoItems
      (twoItemsStrategy ["old"] ["current"]) (twoItemsDecision ["old"] ["current"]) = .ok () := by
    decide +kernel
  have known : KnownReferences twoItems (twoItemsDecision ["old"] ["current"]) := by
    unfold KnownReferences
    decide +kernel
  ⟨⟨accepted, known⟩, (accepted_decisions_partition_iff accepted).mpr known⟩

theorem unknown_reference_accepted :
    let decision := twoItemsDecision ["missing"] ["old", "current"]
    executeCompactionStrategy .finished (twoItemsStrategy ["missing"] ["old", "current"]) twoItems =
        .ok decision ∧
      (∀ item ∈ twoItems.snapshot.items, item.sourceRef ∉ decision.compactedSourceRefs) ∧
      ¬Partitions twoItems decision := by
  have kept : ∀ item ∈ twoItems.snapshot.items,
      item.sourceRef ∉ (twoItemsDecision ["missing"] ["old", "current"]).compactedSourceRefs := by
    decide +kernel
  refine ⟨by decide +kernel, kept, ?_⟩
  intro partitions
  obtain ⟨index, item, found, -, compacted⟩ := partitions.compactsBelow
  exact kept item (mem_of_getElem? found) compacted

/-! ## The rolling summary -/

theorem validateItems_ok
    (valid : validateItems boundary index refs items = .ok u) (unique : refs.Nodup) :
    (refs ++ items.map BrainContextCompactionItem.sourceRef).Nodup ∧
      ∀ offset item, items[offset]? = some item → index + offset < boundary.compactBeforeItem →
        item.toolExchangeCompleted = true := by
  induction items generalizing index refs with
  | nil => simpa using unique
  | cons item rest ih =>
    simp only [validateItems, bind_eq_ok, rejectIf_eq_ok, not_or, not_and] at valid
    obtain ⟨-, ⟨-, fresh⟩, -, completed, -, -, valid⟩ := valid
    obtain ⟨nodup, later⟩ := ih valid (nodup_append.mpr ⟨unique, by simp, by
      intro ref member other isOther same
      rw [mem_singleton] at isOther
      exact fresh (isOther ▸ same ▸ member)⟩)
    refine ⟨by simpa using nodup, ?_⟩
    intro offset other found below
    cases offset with
    | zero =>
      obtain rfl : item = other := by simpa using found
      simpa using completed below
    | succ offset =>
      apply later offset other (by simpa using found)
      omega

theorem isBlank_append (first second : String) :
    isBlank (first ++ second) = (isBlank first && isBlank second) := by
  simp [isBlank]

theorem truncateCompactionUtf8_le (maxBytes : Nat) (chars : List Char) :
    (String.ofList (truncateCompactionUtf8 maxBytes chars)).utf8ByteSize ≤ maxBytes ∧
      truncateCompactionUtf8 maxBytes chars <+: chars := by
  rw [String.utf8ByteSize_ofList]
  induction chars generalizing maxBytes with
  | nil => simp [truncateCompactionUtf8]
  | cons character rest ih =>
    unfold truncateCompactionUtf8
    split
    · next fits =>
      have ⟨small, stem⟩ := ih (maxBytes - character.utf8Size)
      rw [String.utf8Len_cons, prefix_cons_inj]
      exact ⟨by omega, stem⟩
    · simp

def itemLine (item : BrainContextCompactionItem) : List Char :=
  (item.role ++ ": " ++ item.content ++ "\n").toList

/-- The heading is followed by the lines of items, each cut at a character. -/
structure Summarizes (budget : Nat) (heading summary : String)
    (items : List BrainContextCompactionItem) (pieces : List (List Char)) : Prop where
  text : summary = heading ++ String.ofList pieces.flatten
  cut : List.Forall₂ (fun piece item => piece <+: itemLine item) pieces
    (items.take pieces.length)
  bounded : summary.utf8ByteSize ≤ budget

theorem summarize_summarizes {heading : String} (room : heading.utf8ByteSize ≤ budget) (items) :
    ∃ pieces, Summarizes budget heading (summarize budget heading items) items pieces := by
  induction items generalizing heading with
  | nil => exact ⟨[], by simp [summarize], .nil, room⟩
  | cons item rest ih =>
    simp only [summarize]
    split
    · exact ⟨[], by simp, .nil, room⟩
    · obtain ⟨small, stem⟩ := truncateCompactionUtf8_le
        (min (budget - heading.utf8ByteSize) 320) (itemLine item)
      have fits : (heading ++ String.ofList (truncateCompactionUtf8
          (min (budget - heading.utf8ByteSize) 320) (itemLine item))).utf8ByteSize ≤ budget := by
        rw [String.utf8ByteSize_append]
        omega
      obtain ⟨pieces, text, cut, bounded⟩ := ih fits
      refine ⟨_ :: pieces, ?_, .cons stem cut, bounded⟩
      exact text.trans (by simp [String.append_assoc])

theorem rollingSummary_summarizes (input) :
    ∃ pieces, Summarizes (min (max input.policy.targetTokens 256) 4096) summaryHeading
      (rollingSummary input).summaryText
      (input.snapshot.items.take input.safeBoundary.compactBeforeItem) pieces := by
  have short : summaryHeading.utf8ByteSize ≤ 256 := by decide +kernel
  exact summarize_summarizes (by omega) _

section
variable {α : Type} {xs : List α}

theorem mem_take_of_nodup (unique : xs.Nodup) (found : xs[i]? = some x) (n : Nat) :
    x ∈ xs.take n ↔ i < n := by
  simp only [mem_iff_getElem?, getElem?_take]
  constructor
  · rintro ⟨j, isJ⟩
    split at isJ
    · next below =>
      have short : i < xs.length := (List.getElem?_eq_some_iff.mp found).1
      rwa [(getElem?_inj short unique).mp (found.trans isJ.symm)]
    · cases isJ
  · intro below
    exact ⟨i, by rw [if_pos below, found]⟩

theorem mem_drop_of_nodup (unique : xs.Nodup) (found : xs[i]? = some x) (n : Nat) :
    x ∈ xs.drop n ↔ n ≤ i := by
  have member : x ∈ xs.take n ++ xs.drop n := by
    rw [take_append_drop]
    exact mem_of_getElem? found
  have below := mem_take_of_nodup unique found n
  rw [← take_append_drop n xs, nodup_append] at unique
  constructor
  · intro dropped
    by_contra above
    exact unique.2.2 x (below.mpr (by omega)) x dropped rfl
  · intro above
    rcases mem_append.mp member with taken | dropped
    · have := below.mp taken
      omega
    · exact dropped

end

section
variable {input : BrainContextCompactionStrategyInput}

theorem rollingSummary_placed
    (unique : (input.snapshot.items.map BrainContextCompactionItem.sourceRef).Nodup)
    (completed : ∀ index item, input.snapshot.items[index]? = some item →
      index < input.safeBoundary.compactBeforeItem → item.toolExchangeCompleted = true)
    (found : input.snapshot.items[index]? = some item) :
    Placed input.safeBoundary (rollingSummary input).compactedSourceRefs.toFinset
      (rollingSummary input).retainedSourceRefs.toFinset index item := by
  have reference : (input.snapshot.items.map BrainContextCompactionItem.sourceRef)[index]? =
      some item.sourceRef := by
    simp [found]
  have compacted := mem_take_of_nodup unique reference input.safeBoundary.compactBeforeItem
  have retained := mem_drop_of_nodup unique reference input.safeBoundary.compactBeforeItem
  rw [← map_take] at compacted
  rw [← map_drop] at retained
  constructor
  · simp only [rollingSummary, mem_toFinset, compacted, retained]
    omega
  · simp only [rollingSummary, mem_toFinset, compacted]
    exact id
  · simp only [rollingSummary, mem_toFinset, compacted]
    exact completed index item found

section
variable (valid : validateCompactionStrategyInput input = .ok ())
include valid

theorem rollingSummary_accepted
    (selected : input.policy.strategyId = rollingSummaryCompactionStrategy.strategyId)
    (history : 0 < input.safeBoundary.compactBeforeItem) :
    validateCompactionStrategyDecision input rollingSummaryCompactionStrategy
      (rollingSummary input) = .ok () := by
  simp only [validateCompactionStrategyInput, bind_eq_ok, rejectIf_eq_ok] at valid
  obtain ⟨-, -, -, -, -, -, -, inside, -, -, valid⟩ := valid
  obtain ⟨unique, completed⟩ := validateItems_ok valid nodup_nil
  simp only [nil_append, Nat.zero_add] at unique completed
  have split := unique
  rw [← take_append_drop input.safeBoundary.compactBeforeItem input.snapshot.items,
    map_append, nodup_append] at split
  have revised : isBlank "rolling_summary_v1" = false := by decide +kernel
  have heading : isBlank summaryHeading = false := by decide +kernel
  have written : isBlank (rollingSummary input).summaryText = false := by
    obtain ⟨pieces, text, -⟩ := rollingSummary_summarizes input
    rw [text, isBlank_append, heading, Bool.false_and]
  simp only [validateCompactionStrategyDecision, bind_eq_ok, rejectIf_eq_ok, not_or, not_not,
    validatePartition_eq_ok, Nat.zero_add]
  refine ⟨(), ⟨rfl, selected.symm⟩, (), ⟨by simp [rollingSummary, revised], rfl⟩, (),
    ⟨by simp [written], ?_⟩, (), ⟨rfl, rfl, rfl⟩, (),
    ⟨toFinset_card_eq.mpr split.1, toFinset_card_eq.mpr split.2.1, ?_⟩, ?_⟩
  · intro none
    have lengths := congrArg List.length none
    simp only [rollingSummary, length_map, length_take, length_nil] at lengths
    omega
  · rw [Finset.disjoint_left]
    intro ref compacted retained
    rw [mem_toFinset] at compacted retained
    exact split.2.2 ref compacted ref retained rfl
  · exact fun index item found => rollingSummary_placed unique completed found

theorem rollingSummary_preserved (history : 0 < input.safeBoundary.compactBeforeItem) :
    rollingSummaryCompactionStrategy.preserve input = some (.ok (rollingSummary input)) := by
  simp only [validateCompactionStrategyInput, bind_eq_ok, rejectIf_eq_ok] at valid
  obtain ⟨-, -, -, -, -, -, -, inside, -⟩ := valid
  simp only [rollingSummaryCompactionStrategy]
  rw [if_neg history.ne', if_neg inside]

theorem rollingSummary_executes
    (selected : input.policy.strategyId = rollingSummaryCompactionStrategy.strategyId)
    (history : 0 < input.safeBoundary.compactBeforeItem) :
    executeCompactionStrategy .finished rollingSummaryCompactionStrategy input =
        .ok (rollingSummary input) ∧
      Partitions input (rollingSummary input) := by
  have accepted := rollingSummary_accepted valid selected history
  constructor
  · simp [executeCompactionStrategy, valid, accepted, selected, submitStrategy,
      rollingSummary_preserved valid history, orFailWith, rejectIf]
  · refine partitions_of_known accepted fun ref member => ?_
    rw [rollingSummary, ← map_append, take_append_drop] at member
    exact member

end

theorem rolling_summary_succeeds (input : BrainContextCompactionStrategyInput)
    (valid : validateCompactionStrategyInput input = .ok ())
    (selected : input.policy.strategyId = rollingSummaryCompactionStrategy.strategyId)
    (history : 0 < input.safeBoundary.compactBeforeItem) :
    ∃ decision pieces,
      rollingSummaryCompactionStrategy.preserve input = some (.ok decision) ∧
      validateCompactionStrategyDecision input rollingSummaryCompactionStrategy decision = .ok () ∧
      Summarizes (min (max input.policy.targetTokens 256) 4096) summaryHeading decision.summaryText
        (input.snapshot.items.take input.safeBoundary.compactBeforeItem) pieces := by
  obtain ⟨pieces, summarizes⟩ := rollingSummary_summarizes input
  exact ⟨_, pieces, rollingSummary_preserved valid history,
    rollingSummary_accepted valid selected history, summarizes⟩

end

def selectedItems : BrainContextCompactionStrategyInput :=
  { twoItems with policy := ⟨true, true, "rolling_summary_compaction", 1000, 80, 40⟩ }

theorem rolling_summary_succeeds_sample :
    0 < selectedItems.safeBoundary.compactBeforeItem ∧ ∃ decision pieces,
      rollingSummaryCompactionStrategy.preserve selectedItems = some (.ok decision) ∧
      validateCompactionStrategyDecision selectedItems rollingSummaryCompactionStrategy decision =
        .ok () ∧
      Summarizes 400 summaryHeading decision.summaryText (selectedItems.snapshot.items.take 1)
        pieces :=
  ⟨by decide, rolling_summary_succeeds selectedItems (by decide +kernel) rfl (by decide)⟩

theorem rollingSummary_executes_sample : Partitions selectedItems (rollingSummary selectedItems) :=
  (rollingSummary_executes (by decide +kernel) rfl (by decide)).2

theorem unselected_rolling_summary_rejected :
    validateCompactionStrategyInput twoItems = .ok () ∧
      0 < twoItems.safeBoundary.compactBeforeItem ∧
      rollingSummaryCompactionStrategy.preserve twoItems = some (.ok (rollingSummary twoItems)) ∧
      validateCompactionStrategyDecision twoItems rollingSummaryCompactionStrategy
          (rollingSummary twoItems) =
        .error "compaction decision strategy id does not match the selected strategy" := by
  decide +kernel

end RustyCrew.Proof.Brain

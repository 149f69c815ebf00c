import RustyCrew.Bridge.Operations

namespace RustyCrew.Proof.Bridge

open Library Protocol RustyCrew.Persistence RustyCrew.Engine RustyCrew.Bridge

/-! ## The last two segments of a name -/

def named (stem tag last : String) : String := stem ++ ":" ++ tag ++ ":" ++ last

def ColonFree (text : String) : Prop := ':' ∉ text.toList

theorem colonFree_toString (n : Nat) : ColonFree (toString n) := by
  intro member
  have digit : ':'.isDigit = true := Text.isDigit_of_mem_toString member
  exact absurd digit (by decide)

theorem colonFree_sha256Text (value : String) : ColonFree (sha256Text value) :=
  Sha256.colon_not_mem_sha256Hex _

theorem named_toList (stem tag last : String) :
    (named stem tag last).toList = (stem.toList ++ ':' :: tag.toList) ++ ':' :: last.toList := by
  simp only [named, String.toList_append, List.append_assoc]
  rfl

theorem named_inj (tagFree : ColonFree tag)
    (tagFree' : ColonFree tag') (lastFree : ColonFree last) (lastFree' : ColonFree last')
    (same : named stem tag last = named stem' tag' last') :
    stem = stem' ∧ tag = tag' ∧ last = last' := by
  have texts := congrArg String.toList same
  rw [named_toList, named_toList] at texts
  obtain ⟨fronts, lasts⟩ := Text.append_separator_inj lastFree lastFree' texts
  obtain ⟨stems, tags⟩ := Text.append_separator_inj tagFree tagFree' fronts
  exact ⟨String.toList_inj.mp stems, String.toList_inj.mp tags, String.toList_inj.mp lasts⟩

/-! ## The names of the bridge -/

def operationStem (turn : LogicalTurnId) (continuation : ContinuationId) : String :=
  "operation:" ++ turn.raw ++ ":" ++ continuation.raw

theorem hostToolOperationBase_named (turn continuation) (sequence : Nat) :
    hostToolOperationBase turn continuation sequence =
      named (operationStem turn continuation) "host-tool" (toString sequence) := by
  have colons : ":host-tool:" = ":" ++ "host-tool" ++ ":" := by decide
  simp only [hostToolOperationBase, named, operationStem, colons, String.append_assoc]

theorem hostToolRetryId_named (baseOperationId : String) (attempt : Nat) :
    (hostToolRetryId baseOperationId attempt).raw =
      named baseOperationId "retry" (toString attempt) := by
  have colons : ":retry:" = ":" ++ "retry" ++ ":" := by decide
  simp only [hostToolRetryId, named, colons, String.append_assoc]

theorem providerOperationBase_named (turn continuation epochId) :
    providerOperationBase turn continuation epochId =
      named (operationStem turn continuation) "provider" (sha256Text epochId.raw) := by
  have colons : ":provider:" = ":" ++ "provider" ++ ":" := by decide
  simp only [providerOperationBase, named, operationStem, colons, String.append_assoc]

theorem operationStem_inj
    (same : operationStem turn continuation = operationStem turn continuation') :
    continuation = continuation' := by
  have texts := congrArg String.toList same
  simp only [operationStem, String.toList_append, List.append_cancel_left_eq] at texts
  exact congrArg ContinuationId.mk (String.toList_inj.mp texts)

structure Position where
  turn : LogicalTurnId
  continuation : ContinuationId
  sequence : Nat

def Position.base (position : Position) : String :=
  hostToolOperationBase position.turn position.continuation position.sequence

def Position.operationId (position : Position) (attempt : Nat) : BrainOperationId :=
  if attempt = 0 then ⟨position.base⟩ else hostToolRetryId position.base attempt

def ProviderName (id : BrainOperationId) : Prop :=
  ∃ turn continuation epochId sequence,
    id = providerOperationId (providerOperationBase turn continuation epochId) sequence

inductive OperationName (turn : LogicalTurnId) (id : BrainOperationId) : Prop where
  | hostTool (position : Position) (attempt : Nat) (owner : position.turn = turn)
      (small : attempt < 2 ^ 64) (name : id = position.operationId attempt)
  | provider (provider : ProviderName id)

/-! ## Reading the attempt back -/

theorem attempt_some {base id : String} {attempt : Nat}
    (read : hostToolOperationAttempt base id = some attempt) :
    attempt = 0 ∧ id = base ∨ ∃ digits, id = named base "retry" digits ∧ ColonFree digits ∧
        Text.parseUnsigned (2 ^ 64) digits.toList = some attempt := by
  unfold hostToolOperationAttempt at read
  split at read
  · next same =>
    cases read
    exact .inl ⟨rfl, same⟩
  · simp only [Option.bind_eq_bind, Option.bind_eq_some_iff] at read
    obtain ⟨rest, afterBase, digits, afterRetry, parsed⟩ := read
    obtain ⟨front, idSplit, isBase⟩ := List.dropPrefix?_eq_some_iff.mp afterBase
    obtain ⟨retry, restSplit, isRetry⟩ := List.dropPrefix?_eq_some_iff.mp afterRetry
    rw [beq_iff_eq.mp isBase] at idSplit
    rw [beq_iff_eq.mp isRetry] at restSplit
    have text : (String.ofList digits).toList = digits := String.toList_ofList
    refine .inr ⟨String.ofList digits, ?_, ?_, text.symm ▸ parsed⟩
    · refine String.toList_inj.mp ?_
      rw [idSplit, restSplit, named_toList, text, List.append_assoc]
      rfl
    · rw [ColonFree, text]
      intro member
      rcases Text.mem_of_parseUnsigned parsed member with isPlus | digit
      · exact absurd isPlus (by decide)
      · exact absurd digit (by decide)

theorem colonFree_tag : ColonFree "host-tool" ∧ ColonFree "retry" ∧ ColonFree "provider" ∧
    ColonFree "request" := by
  unfold ColonFree
  decide

theorem base_inj {position position' : Position} (owner : position'.turn = position.turn)
    (same : position'.base = position.base) : position' = position := by
  obtain ⟨turn, continuation, sequence⟩ := position
  obtain ⟨turn', continuation', sequence'⟩ := position'
  cases owner
  simp only [Position.base, hostToolOperationBase_named] at same
  obtain ⟨stems, -, sequences⟩ := named_inj colonFree_tag.1 colonFree_tag.1 (colonFree_toString _)
    (colonFree_toString _) same
  cases operationStem_inj stems
  cases Text.toString_injective sequences
  rfl

theorem attempt_position {position position' : Position} {attempt attempt' : Nat}
    (owner : position'.turn = position.turn) (small : attempt' < 2 ^ 64)
    (read : hostToolOperationAttempt position.base (position'.operationId attempt').raw =
      some attempt) : position' = position ∧ attempt' = attempt := by
  obtain ⟨toolFree, retryFree, -, -⟩ := colonFree_tag
  by_cases first : attempt' = 0
  · have name : (position'.operationId attempt').raw = position'.base := by
      rw [Position.operationId, if_pos first]
    rw [name] at read
    rcases attempt_some read with ⟨isFirst, same⟩ | ⟨digits, same, digitsFree, -⟩
    · exact ⟨base_inj owner same, first.trans isFirst.symm⟩
    · rw [Position.base, hostToolOperationBase_named] at same
      obtain ⟨-, tags, -⟩ := named_inj toolFree retryFree (colonFree_toString _) digitsFree same
      exact absurd tags (by decide)
  · have name : (position'.operationId attempt').raw =
        named position'.base "retry" (toString attempt') := by
      rw [Position.operationId, if_neg first, hostToolRetryId_named]
    rw [name] at read
    rcases attempt_some read with ⟨-, same⟩ | ⟨digits, same, digitsFree, parsed⟩
    · rw [Position.base.eq_def position, hostToolOperationBase_named] at same
      obtain ⟨-, tags, -⟩ := named_inj retryFree toolFree (colonFree_toString _)
        (colonFree_toString _) same
      exact absurd tags (by decide)
    · obtain ⟨bases, -, rfl⟩ := named_inj retryFree retryFree (colonFree_toString _) digitsFree same
      rw [Text.parseUnsigned_toString small, Option.some.injEq] at parsed
      exact ⟨base_inj owner bases, parsed⟩

theorem attempt_provider {id : BrainOperationId} (provider : ProviderName id)
    (position : Position) : hostToolOperationAttempt position.base id.raw = none := by
  obtain ⟨toolFree, retryFree, providerFree, requestFree⟩ := colonFree_tag
  obtain ⟨turn, continuation, epochId, sequence, rfl⟩ := provider
  -- the tag before the last segment is `provider` or `request`
  have tagged : ∃ stem tag last, (providerOperationId
      (providerOperationBase turn continuation epochId) sequence).raw = named stem tag last ∧
        (tag = "provider" ∨ tag = "request") ∧ ColonFree last := by
    unfold providerOperationId
    split
    · exact ⟨_, _, _, providerOperationBase_named _ _ _, .inl rfl, colonFree_sha256Text _⟩
    · refine ⟨providerOperationBase turn continuation epochId, "request", toString sequence, ?_,
        .inr rfl, colonFree_toString _⟩
      have colons : ":request:" = ":" ++ "request" ++ ":" := by decide
      simp only [named, colons, String.append_assoc]
  obtain ⟨stem, tag, last, name, isTag, lastFree⟩ := tagged
  have tagFree : ColonFree tag := by
    rcases isTag with rfl | rfl
    · exact providerFree
    · exact requestFree
  cases read : hostToolOperationAttempt position.base _ with
  | none => rfl
  | some attempt =>
    rw [name] at read
    rcases attempt_some read with ⟨-, same⟩ | ⟨digits, same, digitsFree, -⟩
    · rw [Position.base, hostToolOperationBase_named] at same
      obtain ⟨-, tags, -⟩ := named_inj tagFree toolFree lastFree (colonFree_toString _) same
      rcases isTag with rfl | rfl <;> exact absurd tags (by decide)
    · obtain ⟨-, tags, -⟩ := named_inj tagFree retryFree lastFree digitsFree same
      rcases isTag with rfl | rfl <;> exact absurd tags (by decide)

theorem attempt_operationId {position : Position} {attempt : Nat} (small : attempt < 2 ^ 64) :
    hostToolOperationAttempt position.base (position.operationId attempt).raw = some attempt := by
  by_cases first : attempt = 0
  · simp [Position.operationId, hostToolOperationAttempt, first]
  · have text : (position.operationId attempt).raw.toList =
        position.base.toList ++ (":retry:".toList ++ (toString attempt).toList) := by
      simp [Position.operationId, first, hostToolRetryId]
    have longer : (position.operationId attempt).raw ≠ position.base := by
      intro same
      simp [same] at text
    rw [hostToolOperationAttempt, if_neg longer, text]
    simp only [List.dropPrefix?_append_of_beq, BEq.rfl, Option.bind_eq_bind, Option.bind_some,
      Text.parseUnsigned_toString small]

/-- In a turn an id reads back as the attempt and position it was made for, and as no other. -/
theorem operation_id_reads_back (position position' : Position) (attempt read : Nat)
    (owner : position'.turn = position.turn) (small : attempt < 2 ^ 64) :
    hostToolOperationAttempt position.base (position'.operationId attempt).raw = some read ↔
      position' = position ∧ attempt = read := by
  constructor
  · exact attempt_position owner small
  · rintro ⟨rfl, rfl⟩
    exact attempt_operationId small

theorem operation_id_reads_back_retry :
    hostToolOperationAttempt (Position.mk ⟨"t"⟩ ⟨"c"⟩ 3).base
        ((Position.mk ⟨"t"⟩ ⟨"c"⟩ 3).operationId 2).raw = some 2 :=
  (operation_id_reads_back _ _ 2 2 rfl (by decide)).mpr ⟨rfl, rfl⟩

end RustyCrew.Proof.Bridge

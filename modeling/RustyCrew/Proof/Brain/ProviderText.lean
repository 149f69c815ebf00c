import RustyCrew.Brain.ProviderText

namespace RustyCrew.Proof.Brain

open RustyCrew.Brain LiteralThinkScanner List

/-! ## Text that a continuation repeats -/

section
variable {overlap earlier : List Char} {deltas : List (List Char)}

/-- What is passed on of a list of deltas. -/
def passed (overlap : List Char) : List (List Char) → List Char
  | [] => []
  | delta :: deltas =>
    (suppressReplayedPrefix overlap delta).1 ++
      passed (suppressReplayedPrefix overlap delta).2 deltas

theorem passed_nil_overlap (deltas : List (List Char)) : passed [] deltas = deltas.flatten := by
  induction deltas with
  | nil => rfl
  | cons delta deltas ih => simp [passed, suppressReplayedPrefix, ih]

theorem length_passed_le (overlap : List Char) (deltas : List (List Char)) :
    (passed overlap deltas).length ≤ deltas.flatten.length := by
  induction deltas generalizing overlap with
  | nil => rfl
  | cons delta deltas ih =>
    have rest := ih (suppressReplayedPrefix overlap delta).2
    have first : (suppressReplayedPrefix overlap delta).1.length ≤ delta.length := by
      unfold suppressReplayedPrefix
      split_ifs <;> simp
    simp only [passed, flatten_cons, length_append]
    omega

theorem passed_of_replayed (replayed : overlap <+: deltas.flatten) :
    passed overlap deltas = deltas.flatten.drop overlap.length := by
  induction deltas generalizing overlap with
  | nil => simp [passed]
  | cons delta deltas ih =>
    rw [flatten_cons] at replayed ⊢
    unfold passed suppressReplayedPrefix
    split_ifs with trivially swallowed covered
    · obtain rfl | rfl := trivially
      · simp [passed_nil_overlap]
      · simpa using ih (by simpa using replayed)
    · obtain ⟨rest, rfl⟩ := swallowed
      rw [prefix_append_right_inj] at replayed
      simp [ih replayed, drop_append]
    · obtain ⟨rest, rfl⟩ := covered
      simp [passed_nil_overlap]
    · rcases prefix_or_prefix_of_prefix replayed (prefix_append delta _) with covers | swallows
      · exact (covered covers).elim
      · exact (swallowed swallows).elim

/-- The text without the earlier text, where it begins with that. -/
def unrepeated (earlier text : List Char) : List Char :=
  if earlier <+: text then text.drop earlier.length else text

/-- The text repeats all of the earlier text, or its first piece no part of it. -/
def CutsClear (earlier : List Char) (deltas : List (List Char)) : Prop :=
  earlier <+: deltas.flatten ∨ ∀ delta ∈ deltas.find? (· ≠ []), ¬delta <+: earlier

theorem passed_eq_iff (earlier : List Char) (deltas : List (List Char)) :
    passed earlier deltas = unrepeated earlier deltas.flatten ↔ CutsClear earlier deltas := by
  unfold unrepeated CutsClear
  split
  · next replayed => simp [replayed, passed_of_replayed]
  · next apart =>
    simp only [apart, false_or]
    induction deltas with
    | nil => simp [passed]
    | cons delta deltas ih =>
      by_cases blank : delta = []
      · subst blank
        simpa [passed, suppressReplayedPrefix] using ih (by simpa using apart)
      · have present : earlier ≠ [] := fun none => apart (none ▸ nil_prefix)
        have covered : ¬earlier <+: delta := fun covers => apart (covers.trans (by simp))
        by_cases swallowed : delta <+: earlier
        · have short := length_passed_le (earlier.drop delta.length) deltas
          have long := length_pos_of_ne_nil blank
          simp only [passed, suppressReplayedPrefix, present, blank, swallowed, or_self, if_false,
            if_true, nil_append, flatten_cons, find?_cons, ne_eq, not_false_eq_true,
            decide_true, Option.mem_def, Option.some.injEq, forall_eq', not_true, iff_false]
          intro same
          have lengths := congrArg List.length same
          rw [length_append] at lengths
          omega
        · simp [passed, suppressReplayedPrefix, present, blank, swallowed, covered,
            passed_nil_overlap]

inductive ProviderBrain where
  | chatCompletions
  | responses

def ProviderBrain.observe : ProviderBrain → OutputProjection → List Char → OutputProjection
  | .chatCompletions => observeChatDelta
  | .responses => projectedStreamingItemFromProviderEvent

theorem observe_eq (brain : ProviderBrain) : brain.observe = observeChatDelta := by
  cases brain with
  | chatCompletions => rfl
  | responses =>
    funext projection delta
    by_cases none : (suppressReplayedPrefix projection.pendingOverlap delta).1 = []
    · simp [ProviderBrain.observe, projectedStreamingItemFromProviderEvent, observeChatDelta,
        suppressResponsesReplayedPrefix, none]
    · simp [ProviderBrain.observe, projectedStreamingItemFromProviderEvent, observeChatDelta,
        suppressResponsesReplayedPrefix, none]

theorem projected_observed (projection) (deltas : List (List Char)) :
    (deltas.foldl observeChatDelta projection).projected =
      projection.projected ++ passed projection.pendingOverlap deltas := by
  induction deltas generalizing projection with
  | nil => simp [passed]
  | cons delta deltas ih => simp [ih, observeChatDelta, passed]

theorem projection_exact_iff (brain : ProviderBrain) (earlier : List Char)
    (deltas : List (List Char)) :
    (deltas.foldl brain.observe ⟨earlier, []⟩).projected = unrepeated earlier deltas.flatten ↔
      CutsClear earlier deltas := by
  rw [observe_eq, projected_observed]
  exact passed_eq_iff earlier deltas

/-- After "Done." the continuation "Dots" loses its first two characters when they arrive apart. -/
theorem projection_loses_text :
    unrepeated "Done.".toList "Dots".toList = "Dots".toList ∧
      (["Do".toList, "ts".toList].foldl ProviderBrain.chatCompletions.observe
        ⟨"Done.".toList, []⟩).projected = "ts".toList := by
  decide +kernel

end

/-! ## Literal think tags -/

section
variable {text : List Char}

/-- The characters of a text that belong to no tag, each with the side of the tags it stands on. -/
def marks (inThink : Bool) : List Char → List (Bool × Char)
  | [] => []
  | c :: text =>
    if tag inThink <+: c :: text then marks (!inThink) (text.drop ((tag inThink).length - 1))
    else (inThink, c) :: marks inThink text
termination_by text => text.length

def addMark (mark : Bool × Char) : List LiteralThinkEvent → List LiteralThinkEvent
  | [] => [.of mark.1 [mark.2]]
  | event :: events =>
    if event.isReasoning = mark.1 then .of mark.1 (mark.2 :: event.chars) :: events
    else .of mark.1 [mark.2] :: event :: events

/-- The alternating events that carry the characters. -/
def mergeMarks (marked : List (Bool × Char)) : List LiteralThinkEvent := marked.foldr addMark []

def eventMarks (events : List LiteralThinkEvent) : List (Bool × Char) :=
  events.flatMap fun event => event.chars.map (event.isReasoning, ·)

theorem marks_append (inThink : Bool) (emitted : List Char)
    (untagged : ∀ i < emitted.length, ¬tag inThink <+: (emitted ++ rest).drop i) :
    marks inThink (emitted ++ rest) = emitted.map (inThink, ·) ++ marks inThink rest := by
  induction emitted with
  | nil => simp
  | cons c emitted ih =>
    have first := untagged 0 (by simp)
    rw [cons_append, drop_zero] at first
    rw [cons_append, marks, if_neg first, map_cons, cons_append]
    rw [ih fun i inside => untagged (i + 1) (by simpa using inside)]

theorem marks_tag (inThink : Bool) (rest : List Char) :
    marks inThink (tag inThink ++ rest) = marks (!inThink) rest := by
  cases inThink with
  | false | true => simp [tag, marks]

theorem find_some (found : find t text = some position) :
    t <+: text.drop position ∧ position ≤ text.length ∧ ∀ i < position, ¬t <+: text.drop i := by
  simpa [find, findIdx?_eq_some_iff_getElem] using found

theorem find_none (found : find t text = none) (i : Nat) : ¬t <+: text.drop i := by
  have absent := findIdx?_eq_none_iff.mp found (text.drop i) (by simp [drop_suffix])
  simpa using absent

theorem marks_of_find {inThink : Bool} (found : find (tag inThink) text = some position) :
    marks inThink (text ++ rest) = (text.take position).map (inThink, ·) ++
      marks (!inThink) (text.drop (position + (tag inThink).length) ++ rest) := by
  obtain ⟨⟨after, split⟩, -, earlier⟩ := find_some found
  have parts : text ++ rest = text.take position ++ (tag inThink ++ (after ++ rest)) := by
    rw [← append_assoc (tag inThink), split, ← append_assoc, take_append_drop]
  have lengths := congrArg List.length split
  rw [length_append, length_drop] at lengths
  have someTag := length_tag_pos inThink
  rw [← drop_drop, ← split, drop_left, parts, marks_append, marks_tag]
  intro i before tagged
  rw [length_take] at before
  rw [← parts, drop_append_of_le_length (by omega)] at tagged
  refine earlier i (by omega) (prefix_of_prefix_length_le tagged (prefix_append _ rest) ?_)
  rw [length_drop]
  omega

/-- No tag begins in the part of the text that is not kept back, whatever comes next. -/
theorem untagged_emitted (absent : find t text = none) {i : Nat}
    (emitted : i < text.length - partialTagSuffixLen text t) : ¬t <+: (text ++ rest).drop i := by
  intro tagged
  rw [drop_append_of_le_length (by omega)] at tagged
  rcases prefix_or_prefix_of_prefix tagged (prefix_append _ rest) with whole | part
  · exact find_none absent i whole
  · have proper : (text.drop i).length ≠ t.length := fun full =>
      find_none absent i (part.eq_of_length full ▸ prefix_rfl)
    have short := part.length_le
    rw [length_drop] at short proper
    have beyond : partialTagSuffixLen text t < text.length - i := by omega
    apply Nat.findGreatest_is_greatest beyond (by omega)
    rwa [Nat.sub_sub_self (by omega)]

theorem eventMarks_push (events) (inThink : Bool) (chars : List Char) :
    eventMarks (pushLiteralEvent events (.of inThink chars)) =
      eventMarks events ++ chars.map (inThink, ·) := by
  cases inThink with
  | false | true =>
    cases chars <;> simp [pushLiteralEvent, LiteralThinkEvent.of, LiteralThinkEvent.chars,
      LiteralThinkEvent.isReasoning, eventMarks]

theorem drain_marks (finishing : Bool) (events) (scanner) (rest : List Char)
    (last : finishing = true → rest = []) : eventMarks (drain finishing events scanner).1 ++
        marks (drain finishing events scanner).2.inThink
          ((drain finishing events scanner).2.buffer ++ rest) =
      eventMarks events ++ marks scanner.inThink (scanner.buffer ++ rest) := by
  fun_induction drain with
  | case1 | case3 => rfl
  | case2 events scanner present position found ih =>
    rw [ih, eventMarks_push, append_assoc, marks_of_find found]
  | case4 events scanner present absent keep emitLen some =>
    have parts : scanner.buffer ++ rest =
        scanner.buffer.take emitLen ++ (scanner.buffer.drop emitLen ++ rest) := by
      rw [← append_assoc, take_append_drop]
    rw [eventMarks_push, append_assoc, parts, marks_append _ (scanner.buffer.take _)]
    intro i inside
    have emitted : i < emitLen := inside.trans_le (length_take_le _ _)
    rw [← parts]
    cases finishing with
    | true =>
      rw [last rfl, append_nil]
      exact find_none absent i
    | false => exact untagged_emitted absent (by simpa [emitLen, keep] using emitted)

theorem buffer_finish (events) (scanner) : (drain true events scanner).2.buffer = [] := by
  fun_induction drain with
  | case1 => assumption
  | case2 events scanner present position found ih => exact ih
  | case3 events scanner present absent keep emitLen none => simpa [emitLen, keep] using none
  | case4 events scanner present absent keep emitLen some => simp [emitLen, keep]

/-- The events of a stream that brings the deltas and then ends. -/
def scan (scanner : LiteralThinkScanner) : List (List Char) → List LiteralThinkEvent
  | [] => scanner.finish.1
  | delta :: deltas => (scanner.push delta).1 ++ scan (scanner.push delta).2 deltas

theorem scan_marks (scanner) (deltas : List (List Char)) :
    eventMarks (scan scanner deltas) =
      marks scanner.inThink (scanner.buffer ++ deltas.flatten) := by
  induction deltas generalizing scanner with
  | nil =>
    have drained := drain_marks true [] scanner [] fun _ => rfl
    rw [buffer_finish] at drained
    simpa [scan, finish, marks, eventMarks] using drained
  | cons delta deltas ih =>
    have drained := drain_marks false [] { scanner with buffer := scanner.buffer ++ delta }
      deltas.flatten (by simp)
    rw [scan, eventMarks, flatMap_append, ← eventMarks, ← eventMarks, ih]
    simpa [push, eventMarks] using drained

/-- However a text is cut, its events carry the same characters on the same sides of the tags, and
merged they are the segments of the text. -/
theorem think_scanner_exact (deltas : List (List Char)) :
    mergeMarks (eventMarks (scan ⟨[], false⟩ deltas)) = mergeMarks (marks false deltas.flatten) ∧
      mergeMarks (eventMarks (scan ⟨[], false⟩ deltas)) =
        mergeMarks (eventMarks (scan ⟨[], false⟩ [deltas.flatten])) := by
  simp [scan_marks]

end

end RustyCrew.Proof.Brain

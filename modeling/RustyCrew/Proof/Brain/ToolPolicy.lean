import RustyCrew.Brain.ToolPolicy
import RustyCrew.Library.Runs
import RustyCrew.Library.Text

namespace RustyCrew.Proof.Brain

open Library RustyCrew.Brain BufferedBrainToolFailurePolicy

/-! ## Bounded outputs -/

theorem utf8ByteSize_ofList_eq (chars : List Char) :
    (String.ofList chars).utf8ByteSize = textBytes chars := by
  rw [String.utf8ByteSize_ofList]
  induction chars with
  | nil => rfl
  | cons character rest ih => simp_all [textBytes, Nat.add_comm]

section

theorem keepFitting_stem (chars : List Char) (keptChars keptBytes : Nat) :
    keepFitting maxChars maxBytes chars keptChars keptBytes <+: chars := by
  induction chars generalizing keptChars keptBytes with
  | nil => exact List.nil_prefix
  | cons character rest ih =>
    unfold keepFitting
    split
    · exact List.nil_prefix
    · exact (List.prefix_cons_inj character).mpr (ih _ _)

theorem popUntilFits_le (fits : noticeBytes ≤ maxBytes) (chars : List Char) :
    textBytes (popUntilFits noticeBytes maxBytes chars) + noticeBytes ≤ maxBytes := by
  induction chars with
  | nil => simpa [popUntilFits, textBytes] using fits
  | cons last before ih =>
    unfold popUntilFits
    split
    · exact ih
    · next room => exact not_lt.mp room

theorem popUntilFits_nil (large : maxBytes < noticeBytes) (chars : List Char) :
    popUntilFits noticeBytes maxBytes chars = [] := by
  induction chars with
  | nil => rfl
  | cons last before ih => rw [popUntilFits, if_pos (by omega), ih]

theorem popUntilFits_eq (room : textBytes chars + noticeBytes ≤ maxBytes) :
    popUntilFits noticeBytes maxBytes chars = chars := by
  cases chars with
  | nil => rfl
  | cons last before => rw [popUntilFits, if_neg (not_lt.mpr room)]

theorem length_popUntilFits_le (chars : List Char) :
    (popUntilFits noticeBytes maxBytes chars).length ≤ chars.length := by
  induction chars with
  | nil => rfl
  | cons last before ih =>
    unfold popUntilFits
    split
    · exact ih.trans (Nat.le_succ _)
    · rfl

/-- Where the notice has to be made room for, at least one character goes. -/
theorem length_popUntilFits_lt (fits : noticeBytes ≤ maxBytes)
    (tight : maxBytes < textBytes chars + noticeBytes) :
    (popUntilFits noticeBytes maxBytes chars).length < chars.length := by
  cases chars with
  | nil =>
    simp only [textBytes, List.map_nil, List.sum_nil] at tight
    omega
  | cons last before =>
    rw [popUntilFits, if_pos tight]
    exact Nat.lt_succ_of_le (length_popUntilFits_le before)

end

def truncationNotice (omitted : Nat) : List Char :=
  ("\n[truncated " ++ toString omitted ++ " chars]").toList

theorem truncationNotice_inj {xs ys : List Char}
    (same : xs ++ truncationNotice m = ys ++ truncationNotice n) : xs = ys ∧ m = n := by
  have spaced : ∀ omitted, truncationNotice omitted =
      "\n[truncated".toList ++ ' ' :: (toString omitted).toList ++ " chars]".toList := by
    simp [truncationNotice]
  have free : ∀ omitted : Nat, ' ' ∉ (toString omitted).toList := by
    intro omitted member
    exact absurd (Text.isDigit_of_mem_toString member) (by decide)
  rw [spaced, spaced, ← List.append_assoc, ← List.append_assoc, ← List.append_assoc,
    ← List.append_assoc, List.append_cancel_right_eq] at same
  obtain ⟨fronts, digits⟩ := Text.append_separator_inj (free m) (free n) same
  exact ⟨List.append_cancel_right fronts, Text.toString_injective (String.toList_inj.mp digits)⟩

/-- The output is a stem of the text and a notice of how many of its characters are missing. -/
def ReportsMissing (text output : String) : Prop :=
  ∃ kept ≤ text.toList.length, output.toList =
    text.toList.take kept ++ truncationNotice (text.toList.length - kept)

instance (text output : String) : Decidable (ReportsMissing text output) :=
  inferInstanceAs (Decidable (∃ kept ≤ _, _))

section
variable {text : String} {maxChars maxBytes : Nat}

abbrev Fits (text : String) (maxChars maxBytes : Nat) : Prop :=
  text.toList.length ≤ maxChars ∧ textBytes text.toList ≤ maxBytes

theorem boundToolOutput_large (large : ¬Fits text maxChars maxBytes) :
    let kept := keepFitting maxChars maxBytes text.toList 0 0
    let notice := truncationNotice (text.toList.length - kept.length)
    let fitting := (popUntilFits (textBytes notice) maxBytes kept.reverse).reverse
    (boundToolOutput text maxChars maxBytes).1 = String.ofList
      (if textBytes notice ≤ maxBytes then fitting ++ notice else fitting) := by
  rw [boundToolOutput, if_neg large]
  rfl

theorem textBytes_append (xs ys : List Char) :
    textBytes (xs ++ ys) = textBytes xs + textBytes ys := by
  simp [textBytes]

theorem textBytes_reverse (xs : List Char) : textBytes xs.reverse = textBytes xs := by
  simp [textBytes]

theorem boundToolOutput_le (text : String) (maxChars maxBytes : Nat) :
    (boundToolOutput text maxChars maxBytes).1.utf8ByteSize ≤ maxBytes := by
  by_cases fits : Fits text maxChars maxBytes
  · rw [boundToolOutput, if_pos fits, ← String.ofList_toList (s := text), utf8ByteSize_ofList_eq]
    exact fits.2
  · rw [boundToolOutput_large fits, utf8ByteSize_ofList_eq]
    split
    · next fits =>
      rw [textBytes_append, textBytes_reverse]
      exact popUntilFits_le fits _
    · next large =>
      rw [popUntilFits_nil (not_le.mp large)]
      exact Nat.zero_le _

/-- A text that does not fit is reported correctly exactly when what the limits keep of it and the
notice for the rest fit together. -/
theorem bounded_output_reports_missing (text : String) (maxChars maxBytes : Nat) :
    (Fits text maxChars maxBytes → (boundToolOutput text maxChars maxBytes).1 = text) ∧
      (boundToolOutput text maxChars maxBytes).1.utf8ByteSize ≤ maxBytes ∧
      let kept := keepFitting maxChars maxBytes text.toList 0 0
      (¬Fits text maxChars maxBytes →
        (ReportsMissing text (boundToolOutput text maxChars maxBytes).1 ↔
          textBytes (kept ++ truncationNotice (text.toList.length - kept.length)) ≤ maxBytes)) := by
  refine ⟨fun fits => by rw [boundToolOutput, if_pos fits],
    boundToolOutput_le text maxChars maxBytes,
    fun large => ?_⟩
  have stem : keepFitting maxChars maxBytes text.toList 0 0 <+: text.toList :=
    keepFitting_stem _ _ _
  rw [boundToolOutput_large large, textBytes_append]
  generalize keepFitting maxChars maxBytes text.toList 0 0 = kept at stem
  constructor
  · rintro ⟨count, within, output⟩
    rw [String.toList_ofList] at output
    split at output
    · next fits =>
      -- the notice is the one for `kept`, so nothing of `kept` was dropped
      obtain ⟨stems, omitted⟩ := truncationNotice_inj output
      by_contra tight
      have fewer := length_popUntilFits_lt fits (not_le.mp (by rwa [textBytes_reverse]))
      have lengths := congrArg List.length stems
      have shorter := stem.length_le
      rw [List.length_reverse, List.length_take] at lengths
      rw [List.length_reverse] at fewer
      omega
    · next large =>
      rw [popUntilFits_nil (not_le.mp large)] at output
      simp [truncationNotice] at output
  · intro room
    rw [if_pos (by omega), popUntilFits_eq (by rwa [textBytes_reverse]), List.reverse_reverse]
    refine ⟨_, stem.length_le, ?_⟩
    rw [String.toList_ofList, ← List.prefix_iff_eq_take.mp stem]

end

def thirtyLetters : String := String.ofList (List.replicate 30 'a')

theorem bounded_output_reports_missing_sample :
    (boundToolOutput thirtyLetters 2 64).1 = "aa\n[truncated 28 chars]" ∧
      ReportsMissing thirtyLetters (boundToolOutput thirtyLetters 2 64).1 :=
  ⟨by decide +kernel, ((bounded_output_reports_missing thirtyLetters 2 64).2.2
      (by decide +kernel)).mpr (by decide +kernel)⟩

/-- The notice is written before more characters make room for it. -/
theorem truncation_notice_undercounts :
    (boundToolOutput thirtyLetters 20000 25).1 = "aaaaa\n[truncated 5 chars]" ∧
      ¬ReportsMissing thirtyLetters (boundToolOutput thirtyLetters 20000 25).1 := by
  decide +kernel

/-! ## The failure policy over a history of results -/

structure ToolReport where
  toolName : String
  result : BufferedBrainHostToolResult
  maxOutputBytes : Nat

def ToolReport.failure (report : ToolReport) : Option BufferedBrainToolFailure :=
  failureFromResult report.toolName report.result

def recordReport (policy : BufferedBrainToolFailurePolicy) (report : ToolReport) :
    BufferedBrainToolFailurePolicy × BufferedBrainToolPolicyDecision :=
  policy.recordResult report.toolName report.result report.maxOutputBytes

def policyAfter (config : BufferedBrainToolFailurePolicyConfig) (reports : List ToolReport) :
    BufferedBrainToolFailurePolicy :=
  run (fun policy report => (recordReport policy report).1) { config := config } reports

def failures (reports : List ToolReport) : List BufferedBrainToolFailure :=
  reports.filterMap ToolReport.failure

def trailingFailures (reports : List ToolReport) : Nat :=
  (reports.rtakeWhile fun report => report.failure.isSome).length

def failureKey (failure : BufferedBrainToolFailure) : String :=
  failure.toolName ++ ":" ++ failure.reasonCode

/-- The state is a function of the history of reports. -/
structure Recorded (config : BufferedBrainToolFailurePolicyConfig) (reports : List ToolReport)
    (policy : BufferedBrainToolFailurePolicy) : Prop where
  sameConfig : policy.config = config
  total : policy.totalFailures = (failures reports).length
  consecutive : policy.consecutiveFailures = trailingFailures reports
  recent : policy.recentFailures = (failures reports).rtake config.recentFailureLimit
  keyed : ∀ key, ((policy.failuresByKey.find? key).map FailureCount.count).getD 0 =
    (failures reports).countP fun failure => failureKey failure = key

section
variable {config : BufferedBrainToolFailurePolicyConfig}

theorem rtake_concat {α : Type} (xs : List α) (x : α) (n : Nat) :
    (xs.rtake n ++ [x]).drop ((xs.rtake n ++ [x]).length - n) = (xs ++ [x]).rtake n := by
  simp only [List.rtake]
  rw [← List.drop_append_of_le_length (Nat.sub_le _ _), List.drop_drop]
  congr 1
  simp only [List.length_drop, List.length_append, List.length_singleton]
  omega

@[simp] theorem failures_concat (report) :
    failures (reports ++ [report]) = failures reports ++ report.failure.toList := by
  cases failed : report.failure <;> simp [failures, failed]

theorem countFailure_recorded (recorded : Recorded config reports policy) {report : ToolReport}
    {failure : BufferedBrainToolFailure} (failed : report.failure = some failure) :
    Recorded config (reports ++ [report]) (policy.countFailure failure).1 ∧
      (policy.countFailure failure).2 = (failures (reports ++ [report])).countP
        fun other => failureKey other = failureKey failure := by
  have counted : (policy.countFailure failure).2 = (failures (reports ++ [report])).countP
      fun other => failureKey other = failureKey failure := by
    have before := recorded.keyed (failureKey failure)
    simp_all [countFailure, failureKey]
  refine ⟨⟨recorded.sameConfig, ?_, ?_, ?_, fun key => ?_⟩, counted⟩
  · simp [failed, countFailure, recorded.total]
  · simp [trailingFailures, failed, countFailure, recorded.consecutive]
  · have appended := rtake_concat (failures reports) failure config.recentFailureLimit
    simpa [failed, countFailure, recorded.recent, recorded.sameConfig] using appended
  · show (((policy.failuresByKey.put
      ⟨failureKey failure, (policy.countFailure failure).2⟩).find? key).map _).getD 0 = _
    have before := recorded.keyed key
    by_cases same : failureKey failure = key
    · subst same
      simpa using counted
    · simp_all

theorem Recorded.record (recorded : Recorded config reports policy) (report) :
    Recorded config (reports ++ [report]) (recordReport policy report).1 := by
  have kept : (recordReport policy report).1 = (policy.recordFailure report.failure).1 := rfl
  rw [kept]
  cases failed : report.failure with
  | none =>
    have same : failures (reports ++ [report]) = failures reports := by simp [failed]
    refine ⟨recorded.sameConfig, ?_, ?_, ?_, ?_⟩
    · rw [same]
      exact recorded.total
    · simp [trailingFailures, failed, recordFailure]
    · rw [same]
      exact recorded.recent
    · rw [same]
      exact recorded.keyed
  | some failure =>
    have counted : (policy.recordFailure (some failure)).1 = (policy.countFailure failure).1 := by
      unfold recordFailure
      dsimp only
      split
      · rfl
      · split <;> rfl
    rw [counted]
    exact (countFailure_recorded recorded failed).1

theorem recorded_policyAfter (config reports) :
    Recorded config reports (policyAfter config reports) := by
  induction reports using List.reverseRecOn with
  | nil => exact ⟨rfl, rfl, rfl, by simp [policyAfter, failures, List.rtake], fun _ => rfl⟩
  | append_singleton reports report ih =>
    rw [policyAfter, run_append]
    exact ih.record report

theorem guidance_isSome (recorded : Recorded config reports policy) {report : ToolReport}
    {failure : BufferedBrainToolFailure} (failed : report.failure = some failure) :
    (recordReport policy report).2.recoveryGuidance.isSome = true ↔
      config.consecutiveFailureGuidanceThreshold ≤ trailingFailures (reports ++ [report]) ∨
        config.repeatedFailureGuidanceThreshold ≤ (failures (reports ++ [report])).countP
          fun other => failureKey other = failureKey failure := by
  obtain ⟨after, counted⟩ := countFailure_recorded recorded failed
  have given : (recordReport policy report).2.recoveryGuidance =
      (policy.recordFailure report.failure).2 := rfl
  rw [given, failed, ← counted, ← after.consecutive, ← recorded.sameConfig]
  unfold recordFailure
  dsimp only
  split
  · next repeated => exact ⟨fun _ => .inr repeated, fun _ => rfl⟩
  · next fresh =>
    split
    · next long => exact ⟨fun _ => .inl long, fun _ => rfl⟩
    · next short => simpa using ⟨not_le.mp short, not_le.mp fresh⟩

end

theorem failure_policy_follows_history (config : BufferedBrainToolFailurePolicyConfig)
    (reports : List ToolReport) (report : ToolReport)
    (apart : ∀ failure ∈ report.failure, ∀ other ∈ failures (reports ++ [report]),
      failureKey other = failureKey failure →
        other.toolName = failure.toolName ∧ other.reasonCode = failure.reasonCode) :
    let policy := policyAfter config reports
    policy.totalFailures = (failures reports).length ∧
      policy.consecutiveFailures = trailingFailures reports ∧
      policy.recentFailures = (failures reports).rtake config.recentFailureLimit ∧
      ((recordReport policy report).2.recoveryGuidance.isSome = true ↔
        ∃ failure, report.failure = some failure ∧
          (config.consecutiveFailureGuidanceThreshold ≤ trailingFailures (reports ++ [report]) ∨
            config.repeatedFailureGuidanceThreshold ≤ (failures (reports ++ [report])).countP
              fun other => other.toolName = failure.toolName ∧
                other.reasonCode = failure.reasonCode)) := by
  have recorded := recorded_policyAfter config reports
  refine ⟨recorded.total, recorded.consecutive, recorded.recent, ?_⟩
  cases failed : report.failure with
  | none =>
    have given : (recordReport (policyAfter config reports) report).2.recoveryGuidance =
      ((policyAfter config reports).recordFailure report.failure).2 := rfl
    rw [given, failed]
    simp [recordFailure]
  | some failure =>
    have same : (failures (reports ++ [report])).countP
          (fun other => failureKey other = failureKey failure) =
        (failures (reports ++ [report])).countP fun other =>
          other.toolName = failure.toolName ∧ other.reasonCode = failure.reasonCode := by
      refine List.countP_congr fun other member => ?_
      have equal := apart failure failed other member
      simp only [decide_eq_true_eq]
      exact ⟨equal, fun both => by rw [failureKey, both.1, both.2, failureKey]⟩
    rw [guidance_isSome recorded failed, same]
    simp

def failedReport (toolName reasonCode : String) : ToolReport :=
  ⟨toolName, ⟨.failed, "", some reasonCode, false, none, none, none, none, none⟩, 64⟩

theorem failure_policy_follows_history_sample :
    (failures ([failedReport "read" "denied"] ++ [failedReport "read" "denied"])).length = 2 ∧
      (recordReport (policyAfter {} [failedReport "read" "denied"])
        (failedReport "read" "denied")).2.recoveryGuidance.isSome = true :=
  ⟨rfl, ((failure_policy_follows_history {} [failedReport "read" "denied"]
    (failedReport "read" "denied") (by decide +kernel)).2.2.2).mpr ⟨_, rfl, by decide +kernel⟩⟩

/-- Two failures of different tools, for different reasons, with one key. -/
theorem joined_keys_collide :
    let first := failedReport "a:b" "c"
    let second := failedReport "a" "b:c"
    trailingFailures [first, second] < 3 ∧ ((failures [first, second]).countP fun other =>
        other.toolName = "a" ∧ other.reasonCode = "b:c") < 2 ∧
      (recordReport (policyAfter {} [first]) second).2.recoveryGuidance.isSome = true := by
  decide +kernel

end RustyCrew.Proof.Brain

import RustyCrew.Library.Table
import RustyCrew.Protocol.BrainStream

namespace RustyCrew.Brain

open Library Protocol

structure BufferedNeutralToolOutput where
  output : String
  isError : Bool
  stateFingerprint : String
  deriving DecidableEq, Repr

inductive BufferedBrainHostToolStatus where
  | succeeded
  | denied
  | failed
  deriving DecidableEq, Repr

inductive BufferedBrainHostTurnDisposition where
  | completeTurn
  | suspendExternal
  deriving DecidableEq, Repr

structure BufferedBrainHostToolResult where
  status : BufferedBrainHostToolStatus
  outputText : String
  reasonCode : Option String
  retryable : Bool
  (action summary debugDetailId stateFingerprint : Option String)
  turnDisposition : Option BufferedBrainHostTurnDisposition
  deriving DecidableEq, Repr

structure BufferedBrainToolFailure where
  (toolName reasonCode : String)
  retryable : Bool
  action : Option String
  detail : String
  deriving DecidableEq, Repr

structure BufferedBrainToolRecoveryGuidance where
  (reasonCode reason : String)
  totalFailures : Nat
  recentFailures : List BufferedBrainToolFailure
  guidance : String
  deriving DecidableEq, Repr

structure BufferedBrainToolOutputTruncation where
  (originalChars originalBytes outputChars outputBytes : Nat)
  deriving DecidableEq, Repr

structure BufferedBrainToolPolicyDecision where
  providerOutput : BufferedNeutralToolOutput
  failure : Option BufferedBrainToolFailure
  recoveryGuidance : Option BufferedBrainToolRecoveryGuidance
  truncation : Option BufferedBrainToolOutputTruncation
  debugDetailId : Option String
  deriving DecidableEq, Repr

structure BufferedBrainToolFailurePolicyConfig where
  repeatedFailureGuidanceThreshold : Nat := 2
  consecutiveFailureGuidanceThreshold : Nat := 3
  recentFailureLimit : Nat := 5
  maxOutputChars : Nat := 20000
  deriving DecidableEq, Repr

structure FailureCount where
  key : String
  count : Nat
  deriving DecidableEq, Repr

structure BufferedBrainToolFailurePolicy where
  config : BufferedBrainToolFailurePolicyConfig := {}
  totalFailures : Nat := 0
  consecutiveFailures : Nat := 0
  failuresByKey : Table FailureCount.key := Table.empty
  recentFailures : List BufferedBrainToolFailure := []
  deriving DecidableEq

/-! ## Bounding an output -/

def textBytes (chars : List Char) : Nat := (chars.map Char.utf8Size).sum

def keepFitting (maxChars maxBytes : Nat) : List Char → Nat → Nat → List Char
  | [], _, _ => []
  | character :: rest, keptChars, keptBytes =>
    if maxChars ≤ keptChars ∨ maxBytes < keptBytes + character.utf8Size then []
    else
      character :: keepFitting maxChars maxBytes rest (keptChars + 1)
        (keptBytes + character.utf8Size)

def popUntilFits (suffixBytes maxBytes : Nat) : List Char → List Char
  | [] => []
  | last :: before =>
    if maxBytes < textBytes (last :: before) + suffixBytes then
      popUntilFits suffixBytes maxBytes before
    else last :: before

def boundToolOutput (input : String) (maxChars maxBytes : Nat) :
    String × Option BufferedBrainToolOutputTruncation :=
  let chars := input.toList
  if chars.length ≤ maxChars ∧ textBytes chars ≤ maxBytes then (input, none)
  else
    let kept := keepFitting maxChars maxBytes chars 0 0
    let suffix := ("\n[truncated " ++ toString (chars.length - kept.length) ++ " chars]").toList
    let fitting := (popUntilFits (textBytes suffix) maxBytes kept.reverse).reverse
    let output := if textBytes suffix ≤ maxBytes then fitting ++ suffix else fitting
    (String.ofList output,
      some ⟨chars.length, textBytes chars, output.length, textBytes output⟩)

namespace BufferedBrainToolFailurePolicy

def failureDetail (toolName reasonCode : String) (result : BufferedBrainHostToolResult) : String :=
  " ".intercalate
    ([toolName ++ " returned an unsuccessful result",
      (result.action.map fun action => "action=" ++ action).getD "",
      "reason=" ++ reasonCode,
      "retryable=" ++ toString result.retryable].filter fun part => part ≠ "")

def failureFromResult (toolName : String) (result : BufferedBrainHostToolResult) :
    Option BufferedBrainToolFailure :=
  let failure (defaultReason : String) : BufferedBrainToolFailure :=
    let reasonCode := result.reasonCode.getD defaultReason
    ⟨toolName, reasonCode, result.retryable, result.action,
      result.summary.getD (failureDetail toolName reasonCode result)⟩
  match result.status with
  | .succeeded => none
  | .denied => some (failure "tool_denied")
  | .failed => some (failure "tool_reported_unsuccessful_result")

variable (policy : BufferedBrainToolFailurePolicy)

def recoveryGuidance (reasonCode reason : String) : BufferedBrainToolRecoveryGuidance :=
  let recent := "; ".intercalate (policy.recentFailures.map fun failure =>
    failure.toolName ++ ": " ++ failure.reasonCode ++ " (retryable=" ++
      toString failure.retryable ++ ")")
  let guidance := "\n".intercalate
    (["Crew observed " ++ reason ++ ".",
        "Tool failure count this turn: " ++ toString policy.totalFailures ++ "."] ++
      (if recent = "" then [] else ["Recent tool failures: " ++ recent ++ "."]) ++
      ["Do not repeat an unchanged call. Correct the arguments, choose an alternative, or " ++
        "explain the unavailable operation to the user. Continue the turn with the best useful " ++
        "result available."])
  ⟨reasonCode, reason, policy.totalFailures, policy.recentFailures, guidance⟩

def countFailure (failure : BufferedBrainToolFailure) : BufferedBrainToolFailurePolicy × Nat :=
  let recent := policy.recentFailures ++ [failure]
  let key := failure.toolName ++ ":" ++ failure.reasonCode
  let keyCount := ((policy.failuresByKey.find? key).map FailureCount.count).getD 0 + 1
  ({ policy with
      totalFailures := policy.totalFailures + 1
      consecutiveFailures := policy.consecutiveFailures + 1
      recentFailures := recent.drop (recent.length - policy.config.recentFailureLimit)
      failuresByKey := policy.failuresByKey.put ⟨key, keyCount⟩ }, keyCount)

def recordFailure : Option BufferedBrainToolFailure →
      BufferedBrainToolFailurePolicy × Option BufferedBrainToolRecoveryGuidance
  | none => ({ policy with consecutiveFailures := 0 }, none)
  | some failure =>
    let (policy, keyCount) := policy.countFailure failure
    if policy.config.repeatedFailureGuidanceThreshold ≤ keyCount then
      (policy, some (policy.recoveryGuidance "repeated_tool_failure_guidance"
        ("repeated " ++ failure.toolName ++ " failure (" ++ failure.reasonCode ++ ")")))
    else if policy.config.consecutiveFailureGuidanceThreshold ≤ policy.consecutiveFailures then
      (policy, some (policy.recoveryGuidance "consecutive_tool_failure_guidance"
        (toString policy.consecutiveFailures ++ " consecutive tool failures")))
    else (policy, none)

def recordResult (toolName : String) (result : BufferedBrainHostToolResult) (maxOutputBytes : Nat) :
    BufferedBrainToolFailurePolicy × BufferedBrainToolPolicyDecision :=
  let failure := failureFromResult toolName result
  let (policy, guidance) := policy.recordFailure failure
  let (output, truncation) :=
    boundToolOutput result.outputText policy.config.maxOutputChars maxOutputBytes
  (policy,
    { providerOutput := ⟨output, failure.isSome, result.stateFingerprint.getD ""⟩
      failure := failure
      recoveryGuidance := guidance
      truncation := truncation
      debugDetailId := result.debugDetailId })

end BufferedBrainToolFailurePolicy

end RustyCrew.Brain

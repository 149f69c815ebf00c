import RustyCrew.Proof.Brain.Calls
import RustyCrew.Proof.Brain.ToolPolicy

namespace RustyCrew.Proof.Brain

open Library Protocol RustyCrew.Brain Effect Table
open RustyCrew.Brain.BufferedBrainTurnCoordinator

variable {callId : String} {turn : BufferedBrainTurnCoordinator}

/-! ## What a call does -/

structure ToolView where
  limits : BufferedBrainTurnLimits
  pending : Table BufferedNeutralPendingToolRequest.callId
  undelivered : List String
  (submitted accepted : CallTable BufferedNeutralToolOutput)
  results : CallTable BufferedBrainHostToolResult
  decisions : CallTable BufferedBrainToolPolicyDecision

def toolView (turn : BufferedBrainTurnCoordinator) : ToolView :=
  ⟨turn.limits, turn.pendingToolRequests, turn.undeliveredToolRequestIds,
    turn.submittedToolOutputs, turn.acceptedToolOutputs, turn.acceptedHostToolResults,
    turn.acceptedHostToolDecisions⟩

structure ToolHistory where
  delivered : List BufferedNeutralPendingToolRequest
  outputs : List (String × BufferedNeutralToolOutput)
  results : List (String × BufferedBrainHostToolResult)
  polled : List (String × BufferedNeutralToolOutput)

def toolHistory (history : TurnHistory) : ToolHistory :=
  ⟨history.delivered, history.outputs, history.results, history.polled⟩

inductive PhaseMove (before after : BufferedBrainTurnCoordinator) : Prop where
  | same (phase : after.phase = before.phase) (terminal : after.terminal = before.terminal)
  | started (created : before.phase = .created) (phase : after.phase = .running)
      (terminal : after.terminal = before.terminal)
  | ended (running : before.phase = .running) (phase : after.phase.isTerminal = true)
      (terminal : after.terminal.isSome = true)

inductive ToolMove (call : TurnCall) (before after : ObservedTurn) : Prop where
  | idle (tools : toolView after.turn = toolView before.turn)
      (history : toolHistory after.history = toolHistory before.history)
      (phase : PhaseMove before.turn after.turn)
  | queued (request : BufferedNeutralPendingToolRequest)
      (active : before.turn.phase = .running ∨ before.turn.phase = .awaitingHostTools)
      (fresh : before.turn.pendingToolRequests.find? request.callId = none)
      (unanswered : before.turn.acceptedToolOutputs.find? request.callId = none)
      (room : before.turn.pendingToolRequests.rows.length <
        before.turn.limits.maxPendingToolRequests)
      (tools : toolView after.turn = { toolView before.turn with
          pending := before.turn.pendingToolRequests.put request
          undelivered := before.turn.undeliveredToolRequestIds ++ [request.callId] })
      (history : toolHistory after.history = toolHistory before.history)
      (phase : after.turn.phase = .awaitingHostTools)
      (terminal : after.turn.terminal = before.turn.terminal)
  | delivered (n : Nat) (tools : toolView after.turn = { toolView before.turn with
          undelivered := before.turn.undeliveredToolRequestIds.drop n })
      (history : toolHistory after.history = { toolHistory before.history with
          delivered := before.history.delivered ++
            (before.turn.undeliveredToolRequestIds.take n).filterMap
              before.turn.pendingToolRequests.find? })
      (phase : PhaseMove before.turn after.turn)
  | accepted (callId : String) (output : BufferedNeutralToolOutput)
      (host : Option (BufferedBrainHostToolResult × BufferedBrainToolPolicyDecision))
      (awaiting : before.turn.phase = .awaitingHostTools)
      (pending : before.turn.pendingToolRequests.find? callId ≠ none)
      (unanswered : before.turn.acceptedToolOutputs.find? callId = none)
      (first : host.isSome = true → before.turn.acceptedHostToolResults.find? callId = none)
      (tools : toolView after.turn = { toolView before.turn with
          pending := before.turn.pendingToolRequests.erase callId
          submitted := before.turn.submittedToolOutputs.put (callId, output)
          accepted := before.turn.acceptedToolOutputs.put (callId, output)
          results := host.elim before.turn.acceptedHostToolResults fun given =>
            before.turn.acceptedHostToolResults.put (callId, given.1)
          decisions := host.elim before.turn.acceptedHostToolDecisions fun given =>
            before.turn.acceptedHostToolDecisions.put (callId, given.2) })
      (history : toolHistory after.history = { toolHistory before.history with
          outputs := before.history.outputs ++ [(callId, output)]
          results := before.history.results ++ (host.map fun given => (callId, given.1)).toList })
      (phase : after.turn.phase =
        if (before.turn.pendingToolRequests.erase callId).rows = [] then .running
        else .awaitingHostTools)
      (terminal : after.turn.terminal = before.turn.terminal)
  | polled (callId : String) (output : BufferedNeutralToolOutput)
      (submitted : before.turn.submittedToolOutputs.find? callId = some (callId, output))
      (tools : toolView after.turn = { toolView before.turn with
          submitted := before.turn.submittedToolOutputs.erase callId })
      (history : toolHistory after.history = { toolHistory before.history with
          polled := before.history.polled ++ [(callId, output)] })
      (phase : PhaseMove before.turn after.turn)
  | cleared (tools : toolView after.turn = { toolView before.turn with
          pending := Table.empty
          undelivered := []
          submitted := Table.empty })
      (history : toolHistory after.history = toolHistory before.history)
      (phase : after.turn.phase.isTerminal = true)
      (terminal : after.turn.terminal.isSome = true)
      (active : before.turn.phase.isTerminal = false ∨ before.turn.phase = .attentionRequired ∧
        after.turn.phase = .cancelled ∧ ∃ reasonCode summary now,
          call = .cancel reasonCode summary now)

inductive StreamMove (before after : ObservedTurn) : Prop where
  | idle (stream : streamView after.turn = streamView before.turn)
      (accepted : after.history.accepted = before.history.accepted)
      (drained : after.history.drained = before.history.drained)
  | enqueued (item : BrainWakeStreamItem) (now : OffsetDateTime) (sequence : Nat)
      (outcome : EnqueueOutcome item now before.turn (.ok sequence, after.turn))
      (accepted : after.history.accepted = before.history.accepted ++ [item])
      (drained : after.history.drained = before.history.drained)
  | drained (items rest : List SequencedBrainWakeStreamItem)
      (queue : before.turn.streamItems = items ++ rest)
      (stream : streamView after.turn =
        streamView (drainedTurn rest (queuedBytes items) before.turn))
      (accepted : after.history.accepted = before.history.accepted)
      (drained : after.history.drained = before.history.drained ++ items)

structure Moves (call : TurnCall) (before after : ObservedTurn) : Prop where
  tools : ToolMove call before after
  stream : StreamMove before after

theorem requirePhase_bind {α : Type} (phase) (operation : String) (next : Unit → TurnM α) (turn) :
    (requirePhase phase operation >>= next) turn =
      if turn.phase = phase then next () turn
      else (.error (turn.invalidTransition operation), turn) := by
  by_cases same : turn.phase = phase
  · rw [if_pos same]
    exact lift_bind (if_neg (not_not.mpr same))
  · rw [if_neg same]
    exact lift_bind_error (if_pos same)

theorem requireActive_bind {α : Type} (operation : String) (next : Unit → TurnM α) (turn) :
    (requireActive operation >>= next) turn =
      if turn.phase.isTerminal = true then (.error (turn.invalidTransition operation), turn)
      else next () turn := by
  by_cases ended : turn.phase.isTerminal = true
  · rw [if_pos ended]
    refine lift_bind_error (if_pos ?_)
    cases phase : turn.phase <;> simp_all [BufferedBrainTurnPhase.isTerminal]
  · rw [if_neg ended]
    refine lift_bind (if_neg ?_)
    cases phase : turn.phase <;> simp_all [BufferedBrainTurnPhase.isTerminal]

theorem submit_cases (callId : String) (output now turn) :
    (∃ result, submitToolOutputAt callId output now turn = (result, turn) ∧
        result ≠ .ok .accepted ∧ (turn.acceptedToolOutputs.find? callId ≠ none ∨
          ∃ error, result = .error error ∧ checkToolOutput callId output turn = .error error)) ∨
      turn.acceptedToolOutputs.find? callId = none ∧ turn.phase = .awaitingHostTools ∧
        turn.pendingToolRequests.find? callId ≠ none ∧
        turn.submittedToolOutputs.rows.length < turn.limits.maxToolResults ∧
        submitToolOutputAt callId output now turn =
          (.ok .accepted,
            { acceptToolOutput callId output turn with lastTransitionAt := now }) := by
  rw [submitToolOutputAt, read_bind]
  cases found : turn.acceptedToolOutputs.find? callId with
  | some accepted =>
    left
    refine ⟨repeatedOutput callId accepted.2 output, rfl, ?_, .inl (by simp)⟩
    unfold repeatedOutput
    split <;> simp
  | none =>
    cases checked : checkToolOutput callId output turn with
    | error error =>
      left
      exact ⟨.error error, lift_bind_error checked, by simp, .inr ⟨error, rfl, rfl⟩⟩
    | ok u =>
      right
      have accepted := checked
      simp only [checkToolOutput, bind_eq_ok, rejectIf_eq_ok, not_not, not_le] at accepted
      obtain ⟨-, awaiting, -, pending, -, -, room⟩ := accepted
      refine ⟨rfl, awaiting, pending, room, ?_⟩
      exact (lift_bind checked).trans rfl

def acceptedHost (callId : String) (result : BufferedBrainHostToolResult)
    (decision : BufferedBrainToolPolicyDecision) (now : OffsetDateTime)
    (turn : BufferedBrainTurnCoordinator) : BufferedBrainTurnCoordinator :=
  { acceptToolOutput callId decision.providerOutput turn with
    lastTransitionAt := now
    submittedToolDispositions :=
      turn.submittedToolDispositions.put (callId, result.turnDisposition)
    acceptedHostToolResults := turn.acceptedHostToolResults.put (callId, result)
    acceptedHostToolDecisions := turn.acceptedHostToolDecisions.put (callId, decision) }

/-- A new result is refused before the failure policy sees it, or for want of room after the policy
has counted it, or it is accepted. -/
theorem submitNew_cases (result now)
    (disjoint : turn.pendingToolRequests.find? callId ≠ none →
      turn.acceptedToolOutputs.find? callId = none) :
    (∃ error, submitNewResult callId result now turn = (.error error, turn) ∧
        (turn.phase ≠ .awaitingHostTools ∨ turn.pendingToolRequests.find? callId = none)) ∨
      (∃ error request, submitNewResult callId result now turn = (.error error, { turn with
            toolFailurePolicy := (turn.toolFailurePolicy.recordResult request.name result
              turn.limits.maxToolOutputBytes).1 }) ∧
          turn.limits.maxToolResults ≤ turn.submittedToolOutputs.rows.length ∧
          turn.phase = .awaitingHostTools ∧
          turn.pendingToolRequests.find? callId = some request) ∨
      turn.acceptedToolOutputs.find? callId = none ∧ turn.phase = .awaitingHostTools ∧
        turn.pendingToolRequests.find? callId ≠ none ∧
        turn.submittedToolOutputs.rows.length < turn.limits.maxToolResults ∧
        ∃ policy decision, submitNewResult callId result now turn = (.ok ⟨.accepted, decision⟩,
          acceptedHost callId result decision now { turn with toolFailurePolicy := policy }) := by
  have entered := requirePhase_bind .awaitingHostTools "submit host tool result" (fun _ => do
      let request ← check fun turn =>
        orFail (turn.pendingToolRequests.find? callId) (.unknownToolRequest callId)
      let decision ← decideResult request.name result
      let _ ← submitToolOutputAt callId decision.providerOutput now
      acceptResult callId result decision
      pure (⟨.accepted, decision⟩ : BufferedBrainHostToolSubmission)) turn
  have submits : submitNewResult callId result now turn = _ := entered
  rw [submits]
  by_cases awaiting : turn.phase = .awaitingHostTools
  · rw [if_pos awaiting]
    cases pending : turn.pendingToolRequests.find? callId with
    | none =>
      left
      refine ⟨.unknownToolRequest callId, lift_bind_error ?_, .inr rfl⟩
      simp only [pending, orFail]
    | some request =>
      right
      obtain ⟨policy, decision, decides, counted, small⟩ : ∃ policy decision,
          decideResult request.name result turn =
            (.ok decision, { turn with toolFailurePolicy := policy }) ∧
          policy = (turn.toolFailurePolicy.recordResult request.name result
            turn.limits.maxToolOutputBytes).1 ∧
          decision.providerOutput.output.utf8ByteSize ≤ turn.limits.maxToolOutputBytes :=
        ⟨_, _, rfl, rfl, boundToolOutput_le _ _ _⟩
      have unanswered := disjoint (by simp [pending])
      have asked : orFail (turn.pendingToolRequests.find? callId)
          (BufferedBrainTurnError.unknownToolRequest callId) = .ok request := by
        rw [pending]
        rfl
      rcases submit_cases callId decision.providerOutput now
        { turn with toolFailurePolicy := policy } with
        ⟨given, submitted, -, answered | ⟨error, rfl, checked⟩⟩ | ⟨-, -, -, room, submitted⟩
      · exact (answered unanswered).elim
      · left
        refine ⟨error, request, ?_, ?_, awaiting, rfl⟩
        · rw [← counted]
          exact (lift_bind asked).trans ((bind_ok decides).trans (bind_error submitted))
        · by_contra room
          simp [checkToolOutput, rejectIf, awaiting, pending, small.not_gt, room] at checked
      · right
        refine ⟨unanswered, awaiting, by simp, room, policy, decision, ?_⟩
        refine (lift_bind asked).trans ((bind_ok decides).trans ?_)
        exact (bind_ok submitted).trans rfl
  · rw [if_neg awaiting]
    exact .inl ⟨_, rfl, .inl awaiting⟩

theorem queue_cases (request now turn) :
    (∃ error, queueToolRequestAt request now turn = (.error error, turn)) ∨
      (turn.phase = .running ∨ turn.phase = .awaitingHostTools) ∧
        turn.pendingToolRequests.find? request.callId = none ∧
        turn.acceptedToolOutputs.find? request.callId = none ∧
        turn.pendingToolRequests.rows.length < turn.limits.maxPendingToolRequests ∧
        queueToolRequestAt request now turn = (.ok (), { turn with
            pendingToolRequests := turn.pendingToolRequests.put request
            undeliveredToolRequestIds := turn.undeliveredToolRequestIds ++ [request.callId]
            phase := .awaitingHostTools
            lastTransitionAt := now }) := by
  cases checked : checkToolRequest request turn with
  | error error => exact .inl ⟨error, lift_bind_error checked⟩
  | ok u =>
    right
    have accepted := checked
    simp only [checkToolRequest, bind_eq_ok, rejectIf_eq_ok, not_and_or, not_not, not_or, not_le,
      Bool.not_eq_true, Option.isSome_eq_false_iff, Option.isNone_iff_eq_none] at accepted
    obtain ⟨-, active, -, ⟨fresh, unanswered⟩, room⟩ := accepted
    exact ⟨active, fresh, unanswered, room, (lift_bind checked).trans rfl⟩

theorem enqueued_tools (outcome : EnqueueOutcome item now turn (result, after)) :
    toolView after = toolView turn ∧ PhaseMove turn after := by
  cases outcome with
  | rejected _ result | coalesced _ _ _ _ _ _ _ _ _ result =>
    cases result
    exact ⟨rfl, .same rfl rfl⟩
  | appended running _ _ _ _ result =>
    cases result
    have counted : toolView (countedDelta item { turn with
          nextStreamSequence := turn.nextStreamSequence + 1
          streamItems := turn.streamItems ++ [⟨turn.nextStreamSequence, item⟩]
          rawStreamItemCount := saturatingAdd turn.rawStreamItemCount 1
          retainedStreamItemCount := saturatingAdd turn.retainedStreamItemCount 1 }) =
        toolView turn := by
      unfold countedDelta
      split <;> rfl
    cases item with
    | event event =>
      refine ⟨counted, .same ?_ ?_⟩
      · show (countedDelta _ _).phase = turn.phase
        unfold countedDelta
        split <;> rfl
      · show (countedDelta _ _).terminal = turn.terminal
        unfold countedDelta
        split <;> rfl
    | actions | wakeFailed => exact ⟨counted, .ended running rfl rfl⟩

theorem take_cases (callId : String) (now turn) :
    takeSubmittedToolOutput callId now turn = (.ok none, turn) ∨
      ∃ output, turn.submittedToolOutputs.find? callId = some (callId, output) ∧
        takeSubmittedToolOutput callId now turn = (.ok (some output), { turn with
            submittedToolOutputs := turn.submittedToolOutputs.erase callId
            lastTransitionAt := now }) := by
  unfold takeSubmittedToolOutput
  cases found : turn.submittedToolOutputs.find? callId with
  | none => exact .inl rfl
  | some entry =>
    obtain ⟨id, output⟩ := entry
    cases (key_of_find? found : id = callId)
    exact .inr ⟨output, rfl, rfl⟩

theorem refusedTurn_cases (error failedAt turn) :
    refusedTurn error failedAt turn = turn ∨ turn.phase.isTerminal = false ∧
      refusedTurn error failedAt turn = (transitionTerminal .failed "provider_stream_enqueue_failed"
          ("provider stream item was rejected: " ++ error.message) failedAt turn).2 := by
  unfold refusedTurn
  split
  · exact .inl rfl
  · next active =>
    have running := (not_or.mp active).1
    right
    rw [failAt, requireActive_bind, if_neg running]
    exact ⟨Bool.not_eq_true _ ▸ running, rfl⟩

section
variable {observed : ObservedTurn}

theorem step_turn : (observed.step call).turn = (call.perform observed.turn).2 := by
  unfold ObservedTurn.step
  split <;> simp_all

theorem Moves.still : Moves call observed observed :=
  ⟨.idle rfl rfl (.same rfl rfl), .idle rfl rfl rfl⟩

theorem moves_enqueue (item now) : Moves (.enqueueStreamItem item now) observed
      (observed.step (.enqueueStreamItem item now)) := by
  have outcome := enqueue_outcome item now observed.turn
  rw [ObservedTurn.step, TurnCall.perform, bind_pure_eq]
  cases enqueued : enqueueStreamItemAt item now observed.turn with
  | mk result turn =>
    cases result with
    | ok sequence =>
      rw [enqueued] at outcome
      obtain ⟨tools, phase⟩ := enqueued_tools outcome
      exact ⟨.idle tools rfl phase, .enqueued item now sequence outcome rfl rfl⟩
    | error error =>
      obtain ⟨rfl, -⟩ := rejected_same enqueued
      exact .still

theorem moves_provider (item now failedAt) :
    Moves (.enqueueProviderStreamItem item now failedAt) observed
      (observed.step (.enqueueProviderStreamItem item now failedAt)) := by
  have outcome := enqueue_outcome item now observed.turn
  rw [ObservedTurn.step, TurnCall.perform, bind_pure_eq]
  rcases provider_cases item now failedAt observed.turn with
    ⟨sequence, turn, enqueued, passed⟩ | ⟨error, failed⟩
  · rw [enqueued] at outcome
    obtain ⟨tools, phase⟩ := enqueued_tools outcome
    rw [passed]
    exact ⟨.idle tools rfl phase, .enqueued item now sequence outcome rfl rfl⟩
  · rw [failed]
    rcases refusedTurn_cases error failedAt observed.turn with same | ⟨active, ended⟩
    · rw [same]
      exact .still
    · rw [ended]
      exact ⟨.cleared rfl rfl rfl rfl (.inl active), .idle rfl rfl rfl⟩

theorem moves_submit (callId : String) (output now) :
    Moves (.submitToolOutput callId output now) observed
      (observed.step (.submitToolOutput callId output now)) := by
  rw [ObservedTurn.step, TurnCall.perform, bind_pure_eq]
  rcases submit_cases callId output now observed.turn with
    ⟨result, submitted, refused, -⟩ |
      ⟨unanswered, awaiting, pending, -, submitted⟩
  · rw [submitted]
    cases result with
    | error error => exact .still
    | ok receipt =>
      cases receipt with
      | accepted => exact (refused rfl).elim
      | duplicate => exact .still
  · rw [submitted]
    refine ⟨.accepted callId output none awaiting pending unanswered (by simp) rfl ?_ ?_ rfl,
      .idle rfl rfl rfl⟩
    · simp [toolHistory, TurnHistory.record, Except.map]
    · rw [← awaiting]
      rfl

theorem moves_submitHost (callId : String) (result now)
    (disjoint : observed.turn.pendingToolRequests.find? callId ≠ none →
      observed.turn.acceptedToolOutputs.find? callId = none) :
    Moves (.submitHostToolResult callId result now) observed
      (observed.step (.submitHostToolResult callId result now)) := by
  rw [ObservedTurn.step, TurnCall.perform, bind_pure_eq, submitHostToolResultAt, read_bind]
  cases found : observed.turn.acceptedHostToolResults.find? callId with
  | some accepted =>
    obtain ⟨id, accepted⟩ := accepted
    dsimp only
    unfold repeatedResult
    by_cases same : accepted = result
    · rw [if_pos same]
      cases decided : observed.turn.acceptedHostToolDecisions.find? callId with
      | none | some decision =>
        simp only [check, decided]
        exact .still
    · rw [if_neg same]
      exact .still
  | none =>
    rcases submitNew_cases result now disjoint with
      ⟨error, failed, -⟩ | ⟨error, request, failed, -⟩ |
        ⟨unanswered, awaiting, pending, -, policy, decision, submitted⟩
    · simp only [failed]
      exact .still
    · simp only [failed]
      exact ⟨.idle rfl rfl (.same rfl rfl), .idle rfl rfl rfl⟩
    · simp only [submitted]
      refine ⟨.accepted callId decision.providerOutput (some (result, decision)) awaiting pending
        unanswered (fun _ => found) rfl rfl ?_ rfl, .idle rfl rfl rfl⟩
      rw [← awaiting]
      rfl

theorem step_moves (disjoint : ∀ callId, observed.turn.pendingToolRequests.find? callId ≠ none →
      observed.turn.acceptedToolOutputs.find? callId = none) (call) :
    Moves call observed (observed.step call) := by
  cases call
  case enqueueStreamItem item now => exact moves_enqueue item now
  case enqueueProviderStreamItem item now failedAt => exact moves_provider item now failedAt
  case submitToolOutput callId output now => exact moves_submit callId output now
  case submitHostToolResult callId result now =>
    exact moves_submitHost callId result now (disjoint callId)
  all_goals rw [ObservedTurn.step, TurnCall.perform, bind_pure_eq]
  case drainStream maxItems now =>
    obtain ⟨drain, rest, at', queue, drained, -⟩ := drainStream_eq maxItems now observed.turn
    rw [drained]
    exact ⟨.idle rfl rfl (.same rfl rfl), .drained drain.items rest queue rfl rfl rfl⟩
  case start now =>
    rw [startAt, requirePhase_bind]
    by_cases created : observed.turn.phase = .created
    · rw [if_pos created]
      exact ⟨.idle rfl rfl (.started created rfl rfl), .idle rfl rfl rfl⟩
    · rw [if_neg created]
      exact .still
  case queueToolRequest request now =>
    rcases queue_cases request now observed.turn with
      ⟨error, failed⟩ | ⟨active, fresh, unanswered, room, queued⟩
    · rw [failed]
      exact .still
    · rw [queued]
      exact ⟨.queued request active fresh unanswered room rfl rfl rfl rfl, .idle rfl rfl rfl⟩
  case drainHostToolRequests maxRequests now =>
    obtain ⟨at', drained⟩ := drainHostToolRequests_eq maxRequests now observed.turn
    rw [drained]
    exact ⟨.delivered (max maxRequests 1) rfl rfl (.same rfl rfl), .idle rfl rfl rfl⟩
  case pollSubmittedToolOutput callId now =>
    rcases take_cases callId now observed.turn with nothing | ⟨output, submitted, taken⟩
    · rw [nothing]
      exact .still
    · rw [taken]
      exact ⟨.polled callId output submitted rfl rfl (.same rfl rfl), .idle rfl rfl rfl⟩
  case pollSubmittedHostToolOutput callId now =>
    rw [pollSubmittedHostToolOutput]
    rcases take_cases callId now observed.turn with nothing | ⟨output, submitted, taken⟩
    · rw [bind_ok nothing]
      exact .still
    · rw [bind_ok taken]
      exact ⟨.polled callId output submitted rfl rfl (.same rfl rfl), .idle rfl rfl rfl⟩
  case setProviderStateOutput output now =>
    by_cases refused : observed.turn.phase = .created ∨ observed.turn.phase = .cancelled
    · have failed : setProviderStateOutput output now observed.turn = _ :=
        lift_bind_error (if_pos refused)
      rw [failed]
      exact .still
    · have set : setProviderStateOutput output now observed.turn = _ :=
        lift_bind (if_neg refused)
      rw [set]
      exact ⟨.idle rfl rfl (.same rfl rfl), .idle rfl rfl rfl⟩
  case yieldTurn now =>
    rw [yieldTurnAt, requirePhase_bind]
    by_cases running : observed.turn.phase = .running
    · rw [if_pos running]
      exact ⟨.idle rfl rfl (.ended running rfl rfl), .idle rfl rfl rfl⟩
    · rw [if_neg running]
      exact .still
  case requireAttention reasonCode summary now =>
    rw [requireAttentionAt, requirePhase_bind]
    by_cases running : observed.turn.phase = .running
    · rw [if_pos running]
      exact ⟨.idle rfl rfl (.ended running rfl rfl), .idle rfl rfl rfl⟩
    · rw [if_neg running]
      exact .still
  case fail reasonCode summary now =>
    rw [failAt, requireActive_bind]
    by_cases ended : observed.turn.phase.isTerminal = true
    · rw [if_pos ended]
      exact .still
    · rw [if_neg ended]
      exact ⟨.cleared rfl rfl rfl rfl (.inl (by simpa using ended)), .idle rfl rfl rfl⟩
  case cancel reasonCode summary now =>
    rw [cancelAt, read_bind]
    by_cases cancelled : observed.turn.phase = .cancelled
    · rw [if_pos cancelled]
      exact .still
    rw [if_neg cancelled]
    by_cases attention : observed.turn.phase = .attentionRequired
    · rw [if_pos attention]
      exact ⟨.cleared rfl rfl rfl rfl (.inr ⟨attention, rfl, reasonCode, summary, now, rfl⟩),
        .idle rfl rfl rfl⟩
    rw [if_neg attention, requireActive_bind]
    by_cases ended : observed.turn.phase.isTerminal = true
    · rw [if_pos ended]
      exact .still
    · rw [if_neg ended]
      exact ⟨.cleared rfl rfl rfl rfl (.inl (by simpa using ended)), .idle rfl rfl rfl⟩

end

/-! ## Turns that have ended -/

section

theorem PhaseMove.awaiting (move : PhaseMove before after) :
    after.phase = .awaitingHostTools ↔ before.phase = .awaitingHostTools := by
  cases move with
  | same phase => rw [phase]
  | started created phase => simp [created, phase]
  | ended running phase =>
    constructor
    · intro awaiting
      rw [awaiting] at phase
      cases phase
    · intro awaiting
      rw [running] at awaiting
      cases awaiting

theorem PhaseMove.final (move : PhaseMove before after) (ended : before.phase.isTerminal = true) :
    after.phase = before.phase := by
  cases move with
  | same phase => exact phase
  | started created =>
    rw [created] at ended
    cases ended
  | ended running =>
    rw [running] at ended
    cases ended

theorem PhaseMove.ended_of (move : PhaseMove before after)
    (ended : before.phase.isTerminal = true) : after.phase.isTerminal = true := by
  rw [move.final ended]
  exact ended

end

theorem not_ended {phase : BufferedBrainTurnPhase}
    (active : phase = .running ∨ phase = .awaitingHostTools) : phase.isTerminal = false := by
  rcases active with rfl | rfl <;> rfl

section

theorem ToolMove.final (move : ToolMove call before after)
    (ended : before.turn.phase.isTerminal = true) :
    after.turn.phase = before.turn.phase ∨ before.turn.phase = .attentionRequired ∧
      after.turn.phase = .cancelled ∧ ∃ reasonCode summary now,
        call = .cancel reasonCode summary now := by
  cases move with
  | idle _ _ phase | delivered _ _ _ phase | polled _ _ _ _ _ phase =>
    exact .inl (phase.final ended)
  | queued _ active =>
    rw [not_ended active] at ended
    cases ended
  | accepted _ _ _ awaiting =>
    rw [not_ended (.inr awaiting)] at ended
    cases ended
  | cleared _ _ _ _ active =>
    rw [ended] at active
    exact .inr (active.resolve_left (by simp))

theorem ToolMove.active (move : ToolMove call before after)
    (still : after.turn.phase.isTerminal = false) : before.turn.phase.isTerminal = false := by
  by_contra ended
  rw [Bool.not_eq_false] at ended
  rcases move.final ended with same | ⟨-, cancelled, -⟩
  · rw [same, ended] at still
    cases still
  · rw [cancelled] at still
    cases still

end

end RustyCrew.Proof.Brain

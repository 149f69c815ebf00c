import RustyCrew.Proof.Brain.Moves

namespace RustyCrew.Proof.Brain

open Library Protocol RustyCrew.Brain Effect Table
open RustyCrew.Brain.BufferedBrainTurnCoordinator

variable {callId : String} {turn : BufferedBrainTurnCoordinator}

/-! ## Each tool call is handled once -/

structure Phased (pending : Table BufferedNeutralPendingToolRequest.callId)
    (phase : BufferedBrainTurnPhase) (terminal : Option BufferedBrainTurnTerminal) : Prop where
  awaiting : phase = .awaitingHostTools ↔ pending.rows ≠ []
  ended : terminal.isSome = true ↔ phase.isTerminal = true

def announcedIds (tools : ToolView) (history : ToolHistory) : List String :=
  history.delivered.map BufferedNeutralPendingToolRequest.callId ++ tools.undelivered

structure Handled (tools : ToolView) (history : ToolHistory) (ended : Bool) : Prop where
  bounded : tools.pending.rows.length ≤ tools.limits.maxPendingToolRequests
  disjoint : ∀ callId, tools.pending.find? callId ≠ none → tools.accepted.find? callId = none
  outputs : tools.accepted.rows = history.outputs
  results : tools.results.rows = history.results
  decided : ∀ callId, tools.results.find? callId ≠ none → tools.decisions.find? callId ≠ none
  announced : (announcedIds tools history).Nodup
  known : ∀ callId ∈ announcedIds tools history,
    ended = true ∨ tools.pending.find? callId ≠ none ∨ tools.accepted.find? callId ≠ none
  submitted : ∀ entry ∈ tools.submitted.rows,
    entry ∈ history.outputs ∧ entry.1 ∉ history.polled.map Prod.fst
  polledOnce : (history.polled.map Prod.fst).Nodup
  polled : ∀ entry ∈ history.polled, entry ∈ history.outputs

section

theorem Phased.of_pending {pending pending' : Table BufferedNeutralPendingToolRequest.callId}
    {phase : BufferedBrainTurnPhase} {terminal : Option BufferedBrainTurnTerminal}
    (phased : Phased pending phase terminal) (same : pending' = pending) :
    Phased pending' phase terminal :=
  same ▸ phased

theorem PhaseMove.phased (move : PhaseMove before after)
    (phased : Phased pending before.phase before.terminal) :
    Phased pending after.phase after.terminal := by
  refine ⟨move.awaiting.trans phased.awaiting, ?_⟩
  cases move with
  | same phase terminal =>
    rw [phase, terminal]
    exact phased.ended
  | started created phase terminal =>
    have ended := phased.ended
    rw [created] at ended
    rw [phase, terminal]
    exact ended
  | ended _ phase terminal => simp [phase, terminal]

end

section
variable {tools : ToolView} {history : ToolHistory}

theorem Handled.of_ended (handled : Handled tools history ended)
    (kept : ended = true → ended' = true) : Handled tools history ended' :=
  { handled with
    known := fun callId member => (handled.known callId member).imp_left kept }

theorem Handled.absent_outputs (handled : Handled tools history ended)
    (unanswered : tools.accepted.find? callId = none) :
    ∀ entry ∈ history.outputs, entry.1 ≠ callId := by
  rw [← handled.outputs]
  exact find?_eq_none.mp unanswered

theorem handled_queued (handled : Handled tools history false)
    {request : BufferedNeutralPendingToolRequest}
    (fresh : tools.pending.find? request.callId = none)
    (unanswered : tools.accepted.find? request.callId = none)
    (room : tools.pending.rows.length < tools.limits.maxPendingToolRequests) :
    Handled { tools with
      pending := tools.pending.put request
      undelivered := tools.undelivered ++ [request.callId] } history false := by
  have pending : ∀ callId, (tools.pending.put request).find? callId =
      if request.callId = callId then some request else tools.pending.find? callId :=
    fun callId => find?_put _ _ _
  refine ⟨?_, ?_, handled.outputs, handled.results, handled.decided, ?_, ?_, handled.submitted,
    handled.polledOnce, handled.polled⟩
  · show (tools.pending.put request).rows.length ≤ _
    rw [rows_put_of_absent fresh, List.length_append]
    exact room
  · intro callId isPending
    rw [pending] at isPending
    split at isPending
    · next same => exact same ▸ unanswered
    · exact handled.disjoint callId isPending
  · show (announcedIds _ history).Nodup
    rw [announcedIds, ← List.append_assoc]
    refine List.nodup_append.mpr ⟨handled.announced, by simp, fun callId member other isOther => ?_⟩
    rw [List.mem_singleton] at isOther
    rintro rfl
    rcases handled.known callId member with impossible | isPending | isAccepted
    · cases impossible
    · exact isPending (isOther ▸ fresh)
    · exact isAccepted (isOther ▸ unanswered)
  · intro callId member
    rw [announcedIds, ← List.append_assoc] at member
    rw [pending]
    rcases List.mem_append.mp member with old | new
    · rcases handled.known callId old with impossible | isPending | isAccepted
      · cases impossible
      · right
        left
        split
        · simp
        · exact isPending
      · exact .inr (.inr isAccepted)
    · rw [List.mem_singleton] at new
      right
      left
      rw [if_pos new.symm]
      simp

theorem map_callId_sublist (pending : Table BufferedNeutralPendingToolRequest.callId)
    (callIds : List String) :
    ((callIds.filterMap pending.find?).map BufferedNeutralPendingToolRequest.callId).Sublist
      callIds := by
  induction callIds with
  | nil => exact List.Sublist.slnil
  | cons callId rest ih =>
    cases found : pending.find? callId with
    | none =>
      rw [List.filterMap_cons_none found]
      exact ih.cons callId
    | some request =>
      rw [List.filterMap_cons_some found, List.map_cons, key_of_find? found]
      exact ih.cons_cons callId

section
variable (handled : Handled tools history ended)
include handled

theorem handled_delivered (n : Nat) : Handled { tools with undelivered := tools.undelivered.drop n }
      { history with
        delivered := history.delivered ++
          (tools.undelivered.take n).filterMap tools.pending.find? } ended := by
  have sublist : (announcedIds { tools with undelivered := tools.undelivered.drop n } { history with
        delivered := history.delivered ++
          (tools.undelivered.take n).filterMap tools.pending.find? }).Sublist
        (announcedIds tools history) := by
    simp only [announcedIds, List.map_append, List.append_assoc]
    have delivered := (map_callId_sublist tools.pending (tools.undelivered.take n)).append_right
      (tools.undelivered.drop n)
    rw [List.take_append_drop] at delivered
    exact delivered.append_left _
  exact ⟨handled.bounded, handled.disjoint, handled.outputs, handled.results, handled.decided,
    handled.announced.sublist sublist,
    fun callId member => handled.known callId (sublist.subset member),
    handled.submitted, handled.polledOnce, handled.polled⟩

theorem handled_polled (submitted : tools.submitted.find? callId = some (callId, output)) :
    Handled { tools with submitted := tools.submitted.erase callId }
      { history with polled := history.polled ++ [(callId, output)] } ended := by
  obtain ⟨accepted, unpolled⟩ := handled.submitted _ (mem_of_find? submitted)
  refine ⟨handled.bounded, handled.disjoint, handled.outputs, handled.results, handled.decided,
    handled.announced, handled.known, ?_, ?_, ?_⟩
  · intro entry member
    obtain ⟨isSubmitted, other⟩ := mem_erase.mp member
    obtain ⟨isAccepted, notPolled⟩ := handled.submitted entry isSubmitted
    refine ⟨isAccepted, ?_⟩
    rw [List.map_append, List.mem_append]
    simpa [notPolled] using other
  · rw [List.map_append]
    exact List.nodup_append.mpr ⟨handled.polledOnce, by simp, by
      intro polledId member other isOther same
      rw [List.map_singleton, List.mem_singleton] at isOther
      exact unpolled (isOther ▸ same ▸ member)⟩
  · intro entry member
    rcases List.mem_append.mp member with old | new
    · exact handled.polled entry old
    · rw [List.mem_singleton.mp new]
      exact accepted

theorem handled_cleared :
    Handled { tools with
      pending := Table.empty
      undelivered := []
      submitted := Table.empty } history true := by
  have announced : (history.delivered.map BufferedNeutralPendingToolRequest.callId).Nodup :=
    handled.announced.sublist (List.sublist_append_left _ _)
  exact ⟨Nat.zero_le _, fun callId pending => (pending rfl).elim, handled.outputs, handled.results,
    handled.decided, by simpa [announcedIds] using announced, fun _ _ => .inl rfl, by simp,
    handled.polledOnce, handled.polled⟩

theorem handled_accepted (output)
    (host : Option (BufferedBrainHostToolResult × BufferedBrainToolPolicyDecision))
    (unanswered : tools.accepted.find? callId = none)
    (first : host.isSome = true → tools.results.find? callId = none) : Handled { tools with
        pending := tools.pending.erase callId
        submitted := tools.submitted.put (callId, output)
        accepted := tools.accepted.put (callId, output)
        results := host.elim tools.results fun given => tools.results.put (callId, given.1)
        decisions := host.elim tools.decisions fun given => tools.decisions.put (callId, given.2) }
      { history with
        outputs := history.outputs ++ [(callId, output)]
        results := history.results ++ (host.map fun given => (callId, given.1)).toList }
      ended := by
  have absent := handled.absent_outputs unanswered
  have accepted : ∀ otherId, (tools.accepted.put (callId, output)).find? otherId =
      if callId = otherId then some (callId, output) else tools.accepted.find? otherId :=
    fun otherId => find?_put _ _ _
  refine ⟨?_, ?_, ?_, ?_, ?_, handled.announced, ?_, ?_, handled.polledOnce, ?_⟩
  · exact (List.length_filter_le _ _).trans handled.bounded
  · intro otherId pending
    rw [find?_erase] at pending
    split at pending
    · exact (pending rfl).elim
    · next other =>
      rw [accepted, if_neg other]
      exact handled.disjoint otherId pending
  · rw [rows_put_of_absent unanswered, handled.outputs]
  · cases host with
    | none => simpa using handled.results
    | some given =>
      have rows := rows_put_of_absent (a := (callId, given.1)) (first rfl)
      simpa [handled.results] using rows
  · cases host with
    | none => exact handled.decided
    | some given =>
      intro otherId present
      have decided := handled.decided otherId
      by_cases same : callId = otherId
      · simp [same]
      · simp_all
  · intro otherId member
    rw [find?_erase, accepted]
    by_cases same : callId = otherId
    · simp [same]
    · rw [if_neg same, if_neg same]
      exact handled.known otherId member
  · intro entry member
    rcases mem_put.mp member with rfl | ⟨old, other⟩
    · refine ⟨by simp, fun polled => ?_⟩
      obtain ⟨entry, isPolled, same⟩ := List.mem_map.mp polled
      exact absent entry (handled.polled entry isPolled) same
    · obtain ⟨isAccepted, unpolled⟩ := handled.submitted entry old
      exact ⟨List.mem_append_left _ isAccepted, unpolled⟩
  · exact fun entry member => List.mem_append_left _ (handled.polled entry member)

end

end

structure ToolsHandled (observed : ObservedTurn) : Prop where
  phased : Phased observed.turn.pendingToolRequests observed.turn.phase observed.turn.terminal
  handled : Handled (toolView observed.turn) (toolHistory observed.history)
    observed.turn.phase.isTerminal

theorem move_toolsHandled
    (kept : ToolsHandled before) (move : ToolMove call before after) : ToolsHandled after := by
  obtain ⟨phased, handled⟩ := kept
  cases move with
  | idle tools history phase =>
    have pending := congrArg ToolView.pending tools
    refine ⟨(phase.phased phased).of_pending pending, ?_⟩
    rw [tools, history]
    exact handled.of_ended phase.ended_of
  | queued request active fresh unanswered room tools history phase terminal =>
    have pending := congrArg ToolView.pending tools
    rw [not_ended active] at handled
    refine ⟨⟨?_, ?_⟩, ?_⟩
    · have present := mem_put.mpr
        (.inl rfl : request = request ∨ request ∈ before.turn.pendingToolRequests.rows ∧ _)
      rw [show after.turn.pendingToolRequests = _ from pending]
      exact ⟨fun _ => List.ne_nil_of_mem present, fun _ => phase⟩
    · have ended := phased.ended
      rw [not_ended active] at ended
      rw [phase, terminal]
      exact ended
    · rw [tools, history, phase]
      exact handled_queued handled fresh unanswered room
  | delivered n tools history phase =>
    have pending := congrArg ToolView.pending tools
    refine ⟨(phase.phased phased).of_pending pending, ?_⟩
    rw [tools, history]
    exact handled_delivered (handled.of_ended phase.ended_of) n
  | accepted callId output host awaiting pending unanswered first tools history phase terminal =>
    have left := congrArg ToolView.pending tools
    have active : after.turn.phase.isTerminal = false := by
      rw [phase]
      split <;> rfl
    refine ⟨⟨?_, ?_⟩, ?_⟩
    · rw [show after.turn.pendingToolRequests = _ from left, phase]
      split
      · next none => simp [none]
      · next some => simp [some]
    · have ended := phased.ended
      rw [awaiting] at ended
      rw [active, terminal]
      exact ended
    · rw [tools, history]
      rw [not_ended (.inr awaiting)] at handled
      rw [active]
      exact handled_accepted handled output host unanswered first
  | polled callId output submitted tools history phase =>
    have pending := congrArg ToolView.pending tools
    refine ⟨(phase.phased phased).of_pending pending, ?_⟩
    rw [tools, history]
    exact handled_polled (handled.of_ended phase.ended_of) submitted
  | cleared tools history phase terminal =>
    have pending := congrArg ToolView.pending tools
    refine ⟨⟨?_, ?_⟩, ?_⟩
    · rw [show after.turn.pendingToolRequests = _ from pending]
      constructor
      · intro awaiting
        rw [awaiting] at phase
        cases phase
      · intro present
        exact (present rfl).elim
    · simp [phase, terminal]
    · rw [tools, history, phase]
      exact handled_cleared handled

section
variable {moduleId wakeId : String} {sessionId : SessionId} {limits : BufferedBrainTurnLimits}
  (created : newAt moduleId wakeId sessionId limits now = .ok turn)
include created

theorem toolsHandled_fresh : ToolsHandled ⟨turn, {}⟩ := by
  simp only [newAt, bind_eq_ok, pure_eq_ok] at created
  obtain ⟨valid, -, rfl⟩ := created
  exact ⟨⟨by simp, by simp [BufferedBrainTurnPhase.isTerminal]⟩,
    ⟨Nat.zero_le _, fun _ _ => rfl, rfl,
    rfl, fun _ present => (present rfl).elim, List.nodup_nil, by simp [announcedIds, toolView,
      toolHistory], by simp [toolView], List.nodup_nil, by simp [toolHistory]⟩⟩

/-- What every move keeps holds after any calls. -/
theorem run_moves {P : ObservedTurn → Prop} (calls)
    (keeps : ∀ call before after, P before → Moves call before after → P after)
    (start : P ⟨turn, {}⟩) : ToolsHandled (run ObservedTurn.step ⟨turn, {}⟩ calls) ∧
      P (run ObservedTurn.step ⟨turn, {}⟩ calls) := by
  refine @run_invariant_all _ _ _ (fun observed => ToolsHandled observed ∧ P observed) _ calls
    (fun observed call kept => ?_) ⟨toolsHandled_fresh created, start⟩
  have moves := step_moves kept.1.handled.disjoint call
  exact ⟨move_toolsHandled kept.1 moves.tools, keeps call _ _ kept.2 moves⟩

theorem toolsHandled_run (calls) : ToolsHandled (run ObservedTurn.step ⟨turn, {}⟩ calls) :=
  (run_moves created calls (fun _ _ _ _ _ => trivial) trivial).1

end

theorem submit_repeated (found : turn.acceptedToolOutputs.find? callId = some (callId, accepted))
    (output now) : submitToolOutputAt callId output now turn =
      (if accepted = output then .ok .duplicate else .error (.conflictingToolResult callId),
        turn) := by
  refine (read_bind _ _ turn).trans ?_
  rw [found]
  rfl

theorem submitHost_repeated
    (found : turn.acceptedHostToolResults.find? callId = some (callId, accepted))
    (decided : turn.acceptedHostToolDecisions.find? callId = some (callId, decision)) (result now) :
    submitHostToolResultAt callId result now turn =
      (if accepted = result then .ok ⟨.duplicate, decision⟩
        else .error (.conflictingToolResult callId), turn) := by
  refine (read_bind _ _ turn).trans ?_
  rw [found]
  show repeatedResult callId accepted result turn = _
  unfold repeatedResult
  split
  · simp only [check, decided]
  · rfl

theorem submitHost_answered (unknown : turn.acceptedHostToolResults.find? callId = none)
    (answered : turn.pendingToolRequests.find? callId = none) (result now) :
    ∃ error, submitHostToolResultAt callId result now turn = (.error error, turn) := by
  have entered : submitHostToolResultAt callId result now turn =
      submitNewResult callId result now turn := by
    refine (read_bind _ _ turn).trans ?_
    rw [unknown]
  rw [entered]
  unfold submitNewResult
  rw [requirePhase_bind]
  split
  · refine ⟨.unknownToolRequest callId, lift_bind_error ?_⟩
    simp only [answered, orFail]
  · exact ⟨_, rfl⟩

structure ToolsOnce (observed : ObservedTurn) : Prop where
  awaiting : observed.turn.phase = .awaitingHostTools ↔ observed.turn.pendingToolRequests.rows ≠ []
  ended : observed.turn.terminal.isSome = true ↔ observed.turn.phase.isTerminal = true
  disjoint : ∀ request ∈ observed.turn.pendingToolRequests.rows,
    ∀ entry ∈ observed.turn.acceptedToolOutputs.rows, entry.1 ≠ request.callId
  bounded : observed.turn.pendingToolRequests.rows.length ≤
    observed.turn.limits.maxPendingToolRequests
  deliveredOnce : (observed.history.delivered.map BufferedNeutralPendingToolRequest.callId).Nodup
  acceptedOnce : (observed.history.outputs.map Prod.fst).Nodup
  polledOnce : (observed.history.polled.map Prod.fst).Nodup
  polledUnchanged : ∀ entry ∈ observed.history.polled, entry ∈ observed.history.outputs
  outputRepeated : ∀ callId accepted, (callId, accepted) ∈ observed.history.outputs →
    ∀ output now, submitToolOutputAt callId output now observed.turn =
      (if accepted = output then .ok .duplicate else .error (.conflictingToolResult callId),
        observed.turn)
  resultRepeated : ∀ callId accepted, (callId, accepted) ∈ observed.history.results →
    ∃ decision, ∀ result now, submitHostToolResultAt callId result now observed.turn =
      (if accepted = result then .ok ⟨.duplicate, decision⟩
        else .error (.conflictingToolResult callId), observed.turn)
  /-- A host result for a call that a plain output has answered. -/
  resultRejected : ∀ callId ∈ observed.history.outputs.map Prod.fst,
    callId ∉ observed.history.results.map Prod.fst → ∀ result now, ∃ error,
        submitHostToolResultAt callId result now observed.turn = (.error error, observed.turn)
  final : observed.turn.phase.isTerminal = true → ∀ call : TurnCall,
    (call.perform observed.turn).2.phase = observed.turn.phase ∨
      observed.turn.phase = .attentionRequired ∧ (call.perform observed.turn).2.phase = .cancelled ∧
        ∃ reasonCode summary now, call = .cancel reasonCode summary now

theorem ToolsHandled.once (kept : ToolsHandled observed) : ToolsOnce observed := by
  obtain ⟨phased, handled⟩ := kept
  have outputs : observed.turn.acceptedToolOutputs.rows = observed.history.outputs :=
    handled.outputs
  have results : observed.turn.acceptedHostToolResults.rows = observed.history.results :=
    handled.results
  refine ⟨phased.awaiting, phased.ended, ?_, handled.bounded,
    handled.announced.sublist (List.sublist_append_left _ _), ?_, handled.polledOnce,
    handled.polled, ?_, ?_, ?_, fun ended call => ?_⟩
  · intro request pending
    refine find?_eq_none.mp (handled.disjoint request.callId ?_)
    show observed.turn.pendingToolRequests.find? request.callId ≠ none
    simp [find?_of_mem pending]
  · rw [← outputs]
    exact observed.turn.acceptedToolOutputs.unique
  · intro callId accepted member
    rw [← outputs] at member
    exact submit_repeated (find?_of_mem member)
  · intro callId accepted member
    rw [← results] at member
    have found := find?_of_mem member
    have present : observed.turn.acceptedHostToolDecisions.find? callId ≠ none :=
      handled.decided callId (by simp [toolView, found])
    obtain ⟨⟨ownId, decision⟩, decided⟩ := Option.ne_none_iff_exists'.mp present
    obtain rfl : ownId = callId := key_of_find? decided
    exact ⟨decision, submitHost_repeated found decided⟩
  · intro callId member unknown
    rw [← outputs] at member
    rw [← results] at unknown
    obtain ⟨entry, isAccepted, rfl⟩ := List.mem_map.mp member
    refine submitHost_answered (find?_eq_none.mpr fun row isRow same => ?_) ?_
    · exact unknown (List.mem_map.mpr ⟨row, isRow, same⟩)
    · by_contra pending
      have absent := handled.disjoint entry.1 pending
      exact find?_eq_none.mp absent entry isAccepted rfl
  · rw [← step_turn]
    exact (step_moves handled.disjoint call).tools.final ended

theorem tool_calls_handled_once (moduleId wakeId : String) (sessionId : SessionId)
    (limits : BufferedBrainTurnLimits) (now : OffsetDateTime) (turn : BufferedBrainTurnCoordinator)
    (created : newAt moduleId wakeId sessionId limits now = .ok turn) (calls : List TurnCall) :
    ToolsOnce (run ObservedTurn.step ⟨turn, {}⟩ calls) :=
  (toolsHandled_run created calls).once

def sampleTime : OffsetDateTime :=
  { OffsetDateTime.startOfYear 2026 with hour := 9, hour_valid := by decide }

def sampleOutput (text : String) : BufferedNeutralToolOutput := ⟨text, false, "state"⟩

def sampleTools : List TurnCall :=
  [.start sampleTime, .queueToolRequest ⟨"a", none, "read", "\x7b\x7d"⟩ sampleTime,
    .queueToolRequest ⟨"b", none, "read", "\x7b\x7d"⟩ sampleTime,
    .drainHostToolRequests 1 sampleTime,
    .submitToolOutput "a" (sampleOutput "x") sampleTime,
    .submitToolOutput "a" (sampleOutput "x") sampleTime,
    .submitToolOutput "a" (sampleOutput "y") sampleTime,
    .drainHostToolRequests 5 sampleTime, .pollSubmittedToolOutput "a" sampleTime,
    .pollSubmittedToolOutput "a" sampleTime]

theorem tool_calls_handled_once_sample :
    ∃ turn, newAt "module" "wake" ⟨"session"⟩ {} sampleTime = .ok turn ∧
      let observed := run ObservedTurn.step ⟨turn, {}⟩ sampleTools
      (observed.turn.phase = .awaitingHostTools ∧
        observed.history.delivered.map BufferedNeutralPendingToolRequest.callId = ["a", "b"] ∧
        observed.history.outputs = [("a", sampleOutput "x")] ∧
        observed.history.polled = [("a", sampleOutput "x")]) ∧
      ToolsOnce observed :=
  ⟨_, rfl, by decide +kernel,
    tool_calls_handled_once "module" "wake" ⟨"session"⟩ {} sampleTime _ rfl sampleTools⟩

/-! ## Failed submissions and bounded deliveries -/

theorem recordResult_unchanged_iff (policy : BufferedBrainToolFailurePolicy) (toolName : String)
    (result : BufferedBrainHostToolResult) (maxBytes : Nat) :
    (policy.recordResult toolName result maxBytes).1 = policy ↔
      result.status = .succeeded ∧ policy.consecutiveFailures = 0 := by
  have recorded : (policy.recordResult toolName result maxBytes).1 =
    (policy.recordFailure
      (BufferedBrainToolFailurePolicy.failureFromResult toolName result)).1 := rfl
  have counts (failure) : (policy.recordFailure (some failure)).1.totalFailures =
      policy.totalFailures + 1 := by
    unfold BufferedBrainToolFailurePolicy.recordFailure
    dsimp only
    split <;> [rfl; (split <;> rfl)]
  rw [recorded, BufferedBrainToolFailurePolicy.failureFromResult]
  constructor
  · intro same
    cases status : result.status with
    | succeeded =>
      rw [status] at same
      exact ⟨rfl, (congrArg BufferedBrainToolFailurePolicy.consecutiveFailures same).symm⟩
    | denied | failed =>
      rw [status] at same
      have counted := counts _ ▸ congrArg BufferedBrainToolFailurePolicy.totalFailures same
      omega
  · rintro ⟨succeeded, unfailing⟩
    rw [succeeded]
    simp [BufferedBrainToolFailurePolicy.recordFailure, ← unfailing]

theorem failed_submission_changes_nothing_iff (moduleId wakeId : String) (sessionId : SessionId)
    (limits : BufferedBrainTurnLimits) (start now : OffsetDateTime)
    (fresh turn : BufferedBrainTurnCoordinator)
    (created : newAt moduleId wakeId sessionId limits start = .ok fresh) (calls : List TurnCall)
    (reached : turn = (run ObservedTurn.step ⟨fresh, {}⟩ calls).turn) (callId : String)
    (result : BufferedBrainHostToolResult) :
    (∀ error, (submitHostToolResultAt callId result now turn).1 = .error error →
        (submitHostToolResultAt callId result now turn).2 = turn) ↔
      (turn.phase = .awaitingHostTools → turn.acceptedHostToolResults.find? callId = none →
        turn.pendingToolRequests.find? callId ≠ none →
        turn.submittedToolOutputs.rows.length < turn.limits.maxToolResults ∨
          result.status = .succeeded ∧ turn.toolFailurePolicy.consecutiveFailures = 0) := by
  have disjoint := (toolsHandled_run created calls).handled.disjoint callId
  rw [← reached] at disjoint
  rw [submitHostToolResultAt, read_bind]
  cases found : turn.acceptedHostToolResults.find? callId with
  | some accepted =>
    have same : (repeatedResult callId accepted.2 result turn).2 = turn := by
      unfold repeatedResult
      split <;> rfl
    simpa using fun error failed => same
  | none =>
    simp only [true_implies]
    rcases submitNew_cases result now disjoint with
      ⟨error, submitted, early⟩ | ⟨error, request, submitted, full, awaiting, pending⟩ |
        ⟨-, -, -, room, policy, decision, submitted⟩
    · simp only [submitted, implies_true, true_iff]
      intro awaiting pending
      exact (early.elim (absurd awaiting) pending).elim
    · -- The policy has taken the result, so all rests on whether it counts.
      rw [← recordResult_unchanged_iff _ request.name _ turn.limits.maxToolOutputBytes]
      constructor
      · intro kept _ _
        rw [submitted] at kept
        exact .inr (congrArg BufferedBrainTurnCoordinator.toolFailurePolicy (kept error rfl))
      · intro counted _ _
        rcases counted awaiting (by simp [pending]) with room | same
        · exact absurd room full.not_gt
        · rw [submitted, same]
    · simp [submitted, room]

/-- Two requests are queued, and the first is answered before either is delivered. -/
def answeredFirst : List TurnCall :=
  sampleTools.take 3 ++ [.submitToolOutput "a" (sampleOutput "x") sampleTime]

/-- With a full buffer an unknown call and a success after no failure are refused unchanged. -/
theorem failed_submission_changes_nothing_sample :
    ∃ fresh, newAt "module" "wake" ⟨"session"⟩ { maxToolResults := 1 } sampleTime = .ok fresh ∧
      let turn := (run ObservedTurn.step ⟨fresh, {}⟩ answeredFirst).turn
      let denied := (failedReport "read" "denied").result
      let done := { denied with status := .succeeded }
      (submitHostToolResultAt "c" denied sampleTime turn).1 = .error (.unknownToolRequest "c") ∧
        (submitHostToolResultAt "c" denied sampleTime turn).2 = turn ∧
        (submitHostToolResultAt "b" done sampleTime turn).1 =
          .error (.bufferLimitExceeded "tool_results" 1) ∧
        (submitHostToolResultAt "b" done sampleTime turn).2 = turn := by
  have kept := failed_submission_changes_nothing_iff "module" "wake" ⟨"session"⟩
    { maxToolResults := 1 } sampleTime sampleTime _ _ rfl answeredFirst rfl
  exact ⟨_, rfl, by decide +kernel, (kept "c" _).mpr (by decide +kernel) (.unknownToolRequest "c")
    (by decide +kernel), by decide +kernel, (kept "b" _).mpr (by decide +kernel)
    (.bufferLimitExceeded "tool_results" 1) (by decide +kernel)⟩

/-- The policy has counted a result for which there was no room. -/
theorem failed_submission_counts_failure :
    ∃ fresh, newAt "module" "wake" ⟨"session"⟩ { maxToolResults := 1 } sampleTime = .ok fresh ∧
      let turn := (run ObservedTurn.step ⟨fresh, {}⟩ answeredFirst).turn
      let outcome := submitHostToolResultAt "b" (failedReport "read" "denied").result sampleTime
        turn
      outcome.1 = .error (.bufferLimitExceeded "tool_results" 1) ∧
        turn.toolFailurePolicy.totalFailures = 0 ∧
        outcome.2.toolFailurePolicy.totalFailures = 1 :=
  ⟨_, rfl, by decide +kernel⟩

theorem filterMap_take_eq_iff {α β : Type} (f : α → Option β) (xs : List α) (n : Nat) :
    (xs.take n).filterMap f = (xs.filterMap f).take n ↔
      (∀ x ∈ xs.take n, (f x).isSome = true) ∨ ∀ x ∈ xs.drop n, f x = none := by
  have few := List.length_filterMap_le f (xs.take n)
  have taken := List.length_take_le n xs
  have parts : xs.filterMap f = (xs.take n).filterMap f ++ (xs.drop n).filterMap f := by
    rw [← List.filterMap_append, List.take_append_drop]
  rw [← List.filterMap_length_eq_length, ← List.filterMap_eq_nil_iff, parts, List.take_append,
    List.take_of_length_le (few.trans taken), List.self_eq_append_right, List.take_eq_nil_iff]
  rcases le_total n xs.length with long | short
  · rw [List.length_take_of_le long] at few ⊢
    exact or_congr_left (by omega)
  · simp [List.drop_of_length_le short]

/-- The requests that are still pending and not yet delivered, in the order of the queue. -/
def undelivered (turn : BufferedBrainTurnCoordinator) : List BufferedNeutralPendingToolRequest :=
  turn.undeliveredToolRequestIds.filterMap turn.pendingToolRequests.find?

theorem drain_returns_first_iff (n : Nat) (now : OffsetDateTime)
    (turn : BufferedBrainTurnCoordinator) :
    (drainHostToolRequests n now turn).1 = .ok ((undelivered turn).take (max n 1)) ↔
      (∀ callId ∈ turn.undeliveredToolRequestIds.take (max n 1),
          (turn.pendingToolRequests.find? callId).isSome = true) ∨
        ∀ callId ∈ turn.undeliveredToolRequestIds.drop (max n 1),
          turn.pendingToolRequests.find? callId = none := by
  obtain ⟨at', drained⟩ := drainHostToolRequests_eq n now turn
  rw [drained, Except.ok.injEq]
  exact filterMap_take_eq_iff _ _ _

/-- An answered request that was never delivered takes the place of a pending one. -/
theorem drain_skips_pending_request :
    ∃ fresh, newAt "module" "wake" ⟨"session"⟩ {} sampleTime = .ok fresh ∧
      let turn := (run ObservedTurn.step ⟨fresh, {}⟩ answeredFirst).turn
      (undelivered turn).map BufferedNeutralPendingToolRequest.callId = ["b"] ∧
        (drainHostToolRequests 1 sampleTime turn).1 = .ok [] :=
  ⟨_, rfl, by decide +kernel⟩

end RustyCrew.Proof.Brain

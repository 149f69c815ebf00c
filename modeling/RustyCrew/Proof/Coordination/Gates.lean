import RustyCrew.Proof.Coordination.Hydration
import RustyCrew.Proof.Coordination.Reviews

namespace RustyCrew.Proof.Coordination

open Library Protocol RustyCrew.Coordination CoordinationM Attended Table
open RustyCrew.Engine (Calendar Queue QueuedMessageRecord SessionRegistry Surroundings)
open RustyCrew.Proof.Engine (calm crewCalendar)

variable {event : GitHubGateTerminalEvent} {wait : GitHubGateWaitRecord}
  {start : CoordinationEngine} {phase : GitHubGateWaitPhase} {calendar : Calendar}

/-! ## What becomes of a session that waits -/

/-- The result is queued for the session and a wake of it requested, or the submission that awaited
the gate goes on, or the session was archived. -/
inductive Answered (event : GitHubGateTerminalEvent) (wait : GitHubGateWaitRecord)
    (start engine : CoordinationEngine) : GitHubGateWaitPhase → Prop
  | woken {message : QueuedMessageRecord} (queued : message ∈ engine.tables.queue.rows)
      (named : message.messageId = "github-gate-event:" ++ toString event.eventId)
      (owner : message.ownerSessionId = some wait.sessionId) (pending : message.state = .pending)
      (requested : engine.published = start.published ++ [.brainWakeRequested wait.sessionId]) :
      Answered event wait start engine .wakeScheduled
  | consumed {record : ReviewSubmissionRecord} (stored : record ∈ engine.reviews.submissions.rows)
      (gate : record.gateId = some event.gateId)
      (commit : Text.eqIgnoreAsciiCase record.commitSha event.commitSha = true)
      (dispatching : record.phase = .reviewerDispatchPending) :
      Answered event wait start engine .consumed
  | cancelled {session : SessionState}
      (found : start.registry.sessions.find? wait.sessionId = some session)
      (archived : session.status = .archived) : Answered event wait start engine .cancelled

/-- The one wait that the event settles is stored with the answer; the others are as they were. -/
def Settled (event : GitHubGateTerminalEvent) (start : CoordinationEngine)
    (wait : GitHubGateWaitRecord) (engine : CoordinationEngine) : Prop :=
  ∃ phase, Answered event wait start engine phase ∧
    engine.reviews.gateWaits = start.reviews.gateWaits.put { wait with
      phase, terminalEventId := some event.eventId, updatedAt := event.completedAt }

def Untouched (start engine : CoordinationEngine) : Prop :=
  engine.reviews.gateWaits = start.reviews.gateWaits ∧ engine.published = start.published

theorem upholds_applyReviewGateTerminal :
    Upholds (· = start) (applyReviewGateTerminal event)
      (fun submission engine => (submission.isSome → event.status = "passed" →
        ∀ wait, Answered event wait start engine .consumed) ∧ Untouched start engine)
      fun _ => True := by
  apply upholds_bind (Q := fun records engine =>
    records = start.reviews.listReviewSubmissions ∧ engine = start)
  · refine upholds_loadReviews (fun e records listed same => ?_) fun _ _ => trivial
    cases listed
    exact ⟨same ▸ rfl, same⟩
  intro records
  apply upholds_assume
  rintro rfl
  split
  · refine upholds_pure fun _ same => ⟨by simp, ?_⟩
    rw [same]
    exact ⟨rfl, rfl⟩
  · next record found =>
    have awaits := List.find?_some found
    simp only [awaitsGate, Bool.and_eq_true, decide_eq_true_eq] at awaits
    refine upholds_bind (Q := fun _ engine => afterGate event record ∈
      engine.reviews.submissions.rows ∧ Untouched start engine) ?_ fun _ => upholds_pure ?_
    · refine upholds_saveReviewSubmissionRecord (fun e same => ?_) fun _ _ => trivial
      rw [same]
      exact ⟨mem_put.mpr (.inl rfl), rfl, rfl⟩
    · intro engine kept
      refine ⟨fun _ passed _ => .consumed kept.1 awaits.1.2 awaits.2 ?_, kept.2⟩
      exact if_pos passed

theorem upholds_settleWait {R : CoordinationEngine → Prop}
    (frame : ∀ e gateWaits gateCursor projectCursors, R e →
      R { e with reviews := { e.reviews with gateWaits, gateCursor, projectCursors } }) :
    Upholds (fun e => e.reviews.gateWaits = start.reviews.gateWaits ∧ R e)
      (settleWait event phase wait)
      (fun _ e => e.reviews.gateWaits = start.reviews.gateWaits.put (settledWait event phase wait) ∧
        R e) fun _ => True := by
  apply upholds_bind (Q := fun _ e =>
    e.reviews.gateWaits = start.reviews.gateWaits.put (settledWait event phase wait) ∧ R e)
  · refine upholds_saveReviews (fun e reviews saved pre => ?_) fun _ _ => trivial
    simp only [ReviewTables.saveWait, bind_eq_ok, pure_eq_ok] at saved
    obtain ⟨_, -, rfl⟩ := saved
    exact ⟨pre.1 ▸ rfl, frame e _ _ _ pre.2⟩
  · intro _
    refine Upholds.failing (preserves_cursors fun e _ _ pre => ?_) fun _ _ => trivial
    exact ⟨pre.1, frame e e.reviews.gateWaits _ _ pre.2⟩

theorem mem_saved (queue : Queue) (record : QueuedMessageRecord) : ∃ stored ∈
    (queue.saveQueuedMessage record).rows, stored.messageId = record.messageId ∧
      stored.ownerSessionId = record.ownerSessionId ∧ stored.state = record.state := by
  unfold Queue.saveQueuedMessage
  split <;> exact ⟨_, mem_put.mpr (.inl rfl), rfl, rfl, rfl⟩

theorem upholds_wakeForGate :
    Upholds (Untouched start) (wakeForGate calendar event cursor wait agentId)
      (fun receipt engine => receipt.duplicate = false ∧ Settled event start wait engine)
      fun _ => True := by
  have ttl : Preserves (Untouched start) (queuedMessageTtlMs wait.sessionId) := by
    simp [queuedMessageTtlMs]
  apply upholds_bind (ttl.failing fun _ _ => trivial)
  intro ttlMs
  apply upholds_bind (preserves_lift.failing fun _ _ => trivial)
  intro expiresAt
  apply upholds_bind (Q := fun _ e => e.reviews.gateWaits = start.reviews.gateWaits ∧
    (∃ message ∈ e.tables.queue.rows,
      message.messageId = "github-gate-event:" ++ toString event.eventId ∧
      message.ownerSessionId = some wait.sessionId ∧ message.state = .pending) ∧
    e.published = start.published)
  · refine upholds_inStore (fun e _ tables saved pre => ?_) fun _ _ => trivial
    cases saved
    exact ⟨pre.1, mem_saved _ _, pre.2⟩
  intro _
  apply upholds_bind (upholds_settleWait fun _ _ _ _ => id)
  intro _
  refine upholds_bind (Q := fun _ => Settled event start wait) ?_ fun _ =>
    upholds_pure fun _ settled => ⟨rfl, settled⟩
  refine upholds_publish (fun _ e pre => ?_) fun _ _ => trivial
  obtain ⟨waits, ⟨message, queued, named, owner, pending⟩, published⟩ := pre
  exact ⟨_, .woken queued named owner pending (by rw [published]), waits⟩

theorem upholds_consumeAwaited :
    Upholds (· = start) (consumeAwaited calendar event cursor wait)
      (fun receipt engine => receipt.duplicate = false ∧ Settled event start wait engine)
      fun _ => True := by
  apply upholds_bind (Q := fun session e =>
    start.registry.sessions.find? wait.sessionId = some session ∧ e = start)
  · refine upholds_lookUp (fun e session found same => ?_) fun _ _ => trivial
    rw [same, SessionRegistry.getSession, orFail_eq_ok] at found
    exact ⟨found, same⟩
  intro session
  apply upholds_assume
  intro found
  split
  · next archived =>
    refine upholds_bind (Q := fun _ => Settled event start wait) ?_ fun _ =>
      upholds_pure fun _ settled => ⟨rfl, settled⟩
    refine ((upholds_settleWait (R := fun _ => True) fun _ _ _ _ => id).starting ?_).returning
      fun _ _ post => ⟨_, .cancelled found archived, post.1⟩
    exact fun _ same => ⟨by rw [same], trivial⟩
  · apply upholds_bind upholds_applyReviewGateTerminal
    intro submission
    split
    · next consumed =>
      refine upholds_bind (Q := fun _ => Settled event start wait) ?_ fun _ =>
        upholds_pure fun _ settled => ⟨rfl, settled⟩
      refine ((upholds_settleWait (R := fun e => Answered event wait start e .consumed)
        fun e _ _ _ answered => ?_).starting fun _ pre => ?_).returning
          fun _ _ post => ⟨_, post.2, post.1⟩
      · cases answered with
        | consumed stored gate commit dispatching =>
          exact .consumed stored gate commit dispatching
      · exact ⟨pre.2.1, pre.1 consumed.1 consumed.2 wait⟩
    · exact upholds_wakeForGate.starting fun _ pre => pre.2

def Handled (event : GitHubGateTerminalEvent) (start engine : CoordinationEngine) : Prop :=
  match start.reviews.listWaits.find? (matchesWait event) with
  | none => engine.reviews.gateWaits = start.reviews.gateWaits
  | some wait => Settled event start wait engine

theorem upholds_consumeGithubGateTerminalEvent :
    Upholds (· = start) (consumeGithubGateTerminalEvent calendar event)
      (fun receipt engine => receipt.duplicate = false → Handled event start engine)
      fun _ => True := by
  apply upholds_bind (preserves_lift.failing fun _ _ => trivial)
  intro _
  apply upholds_bind (preserves_loadReviews.failing fun _ _ => trivial)
  intro cursor
  apply upholds_bind (preserves_loadReviews.failing fun _ _ => trivial)
  intro projectCursor
  split
  · exact upholds_pure fun _ _ fresh => by cases fresh
  apply upholds_bind (Q := fun waits engine => waits = start.reviews.listWaits ∧ engine = start)
  · refine upholds_loadReviews (fun e waits listed same => ?_) fun _ _ => trivial
    cases listed
    exact ⟨same ▸ rfl, same⟩
  intro waits
  apply upholds_assume
  rintro rfl
  unfold Handled
  cases found : start.reviews.listWaits.find? (matchesWait event) with
  | none =>
    have kept : Preserves (fun engine => engine.reviews.gateWaits = start.reviews.gateWaits)
        (saveGithubGateEventCursors event) := preserves_cursors fun _ _ _ => id
    apply upholds_bind upholds_applyReviewGateTerminal
    intro submission
    apply upholds_bind ((kept.starting fun _ post => post.2.1).failing fun _ _ => trivial)
    exact fun _ => upholds_pure fun _ same _ => same
  | some wait => exact upholds_consumeAwaited.returning fun _ _ settled _ => settled.2

theorem mem_of_listWaits {tables : ReviewTables} (listed : wait ∈ tables.listWaits) :
    wait ∈ tables.gateWaits.rows := by
  have ordered := List.mem_of_mem_take listed
  exact (List.perm_insertionSort _ _).mem_iff.mp ordered

section
variable {s s' : Attended CoordinationEngine Surroundings} {receipt : GitHubGateTerminalReceipt}

theorem handled_of_consumed
    (consumed : consumeGithubGateTerminalEvent calendar event s = (.ok receipt, s'))
    (fresh : receipt.duplicate = false) : Handled event s.state s'.state := by
  have handles : Upholds (· = s.state) (consumeGithubGateTerminalEvent calendar event) _ _ :=
    upholds_consumeGithubGateTerminalEvent
  have ran := handles s.answers s ⟨⟨0, fun _ => rfl⟩, rfl⟩
  rw [consumed] at ran
  exact ran.2 fresh

theorem Answered.ended (answered : Answered event wait start engine phase) : phase ≠ .waiting := by
  cases answered <;> simp

/-- After an event was consumed, every session that waited for its gate and commit has been woken,
consumed by its submission or cancelled, and none waits any more, if and only if the first listed
wait for them was the only one. -/
theorem consumed_event_answers_waits_iff
    (consumed : consumeGithubGateTerminalEvent calendar event s = (.ok receipt, s'))
    (fresh : receipt.duplicate = false) :
    ((∀ wait ∈ s.state.reviews.gateWaits.rows, matchesWait event wait = true →
        ∃ phase, Answered event wait s.state s'.state phase ∧
          { wait with phase, terminalEventId := some event.eventId, updatedAt := event.completedAt }
            ∈ s'.state.reviews.gateWaits.rows) ∧
      ∀ wait ∈ s'.state.reviews.gateWaits.rows, matchesWait event wait = false) ↔
      ∀ wait ∈ s.state.reviews.gateWaits.rows, matchesWait event wait = true →
        s.state.reviews.listWaits.find? (matchesWait event) = some wait := by
  have handled := handled_of_consumed consumed fresh
  unfold Handled at handled
  split at handled
  · next none => simp +contextual [handled, none]
  · next first found =>
    obtain ⟨phase, answered, waits⟩ := handled
    have isRow := mem_of_listWaits (List.mem_of_find?_eq_some found)
    rw [waits, found]
    constructor
    · intro settled wait stored waiting
      by_cases same : wait.sessionId = first.sessionId
      · rw [List.inj_on_of_nodup_map s.state.reviews.gateWaits.unique stored isRow same]
      · have left := settled.2 wait (mem_put.mpr (.inr ⟨stored, same⟩))
        rw [waiting] at left
        cases left
    · intro only
      refine ⟨fun wait stored waiting => ?_, fun wait stored => ?_⟩
      · cases only wait stored waiting
        exact ⟨phase, answered, mem_put.mpr (.inl rfl)⟩
      · rcases mem_put.mp stored with rfl | ⟨isOld, other⟩
        · simp [matchesWait, answered.ended]
        · by_contra waiting
          cases only wait isOld (by simpa using waiting)
          exact other rfl

end

/-! ### Two sessions that wait for one gate -/

def gateCalendar : Calendar := { crewCalendar with formatAfter _ _ := .ok "2026-01-03T00:00:00Z" }

def waitingCrew (names : List String) : CoordinationEngine :=
  run (CoordinationEngine.review gateCalendar) (crewEngine names) (names.map fun name =>
    (.suspend ⟨⟨name ++ "-session"⟩, none, none, ⟨"project"⟩, ⟨"task"⟩, 7, submittedCommit,
      "2026-01-01T00:00:00Z"⟩, fun _ => calm))

def gatePassed : GitHubGateTerminalEvent :=
  ⟨1, 7, ⟨"project"⟩, ⟨"task"⟩, submittedCommit, "passed", "checks_passed", none, none,
    "2026-01-01T00:00:00Z"⟩

def consumePassed (engine : CoordinationEngine) :=
  consumeGithubGateTerminalEvent gateCalendar gatePassed (undisturbed engine fun _ => calm)

theorem second_session_keeps_waiting :
    let first := consumePassed (waitingCrew ["a", "b"])
    let second := consumePassed first.2.state
    first.1.toOption.map (·.duplicate) = some false ∧
      second.1.toOption.map (·.duplicate) = some true ∧
      ∃ wait ∈ second.2.state.reviews.gateWaits.rows, wait.sessionId = ⟨"b-session"⟩ ∧
        matchesWait gatePassed wait = true := by
  decide +kernel

theorem consumed_event_answers_waits_alone :
    (consumePassed (waitingCrew ["a"])).1.toOption.map (·.duplicate) = some false ∧
    ∀ wait ∈ (waitingCrew ["a"]).reviews.gateWaits.rows, matchesWait gatePassed wait = true →
      ∃ phase, Answered gatePassed wait (waitingCrew ["a"])
        (consumePassed (waitingCrew ["a"])).2.state phase := by
  have fresh : (consumePassed (waitingCrew ["a"])).1.toOption.map (·.duplicate) = some false := by
    decide +kernel
  refine ⟨fresh, ?_⟩
  cases ran : consumePassed (waitingCrew ["a"]) with
  | mk result after =>
    cases result with
    | error failure => simp [ran, Except.toOption] at fresh
    | ok receipt =>
      have isFresh : receipt.duplicate = false := by simpa [ran, Except.toOption] using fresh
      have answered := (consumed_event_answers_waits_iff ran isFresh).mpr (by decide +kernel)
      intro wait stored waiting
      obtain ⟨phase, answer, -⟩ := answered.1 wait stored waiting
      exact ⟨phase, answer⟩

end RustyCrew.Proof.Coordination

import RustyCrew.Proof.Coordination.Submissions

namespace RustyCrew.Proof.Coordination

open Library Protocol RustyCrew.Coordination CoordinationM Attended Table
open RustyCrew.Engine (Calendar Surroundings)

variable {record next : ReviewSubmissionRecord} {submissions : Submissions}
  {event : GitHubGateTerminalEvent} {named : String → String → Prop}
  {transition : ReviewSubmissionTransition}

/-! ## What a submission has to show for its phase -/

@[simp] def progress : ReviewSubmissionPhase → Nat
  | .reviewerDispatchPending => 1
  | .reviewerDispatched => 2
  | .denFinalizationPending => 3
  | .denFinalized | .replyPending | .replyTerminal => 4
  | .replied => 5
  | .submitted | .denHandoffRecorded | .gatePending | .gateFailed | .reviewTerminal
  | .superseded => 0

def Filled (text : Option String) : Prop := ∃ value, text = some value ∧ Text.isBlank value = false

def Numbered (id : Option Nat) : Prop := ∃ value, id = some value ∧ value ≠ 0

structure Finalized (record : ReviewSubmissionRecord) : Prop where
  finalization : Numbered record.reviewFinalizationId
  packet : Numbered record.reviewPacketId
  packetMessage : Numbered record.reviewPacketMessageId
  exactHeadCommit : Filled record.reviewExactHeadCommit
  verdict : Filled record.reviewVerdict
  taskStatus : Filled record.reviewTaskStatus

structure Evidenced (record : ReviewSubmissionRecord) : Prop where
  gate : 1 ≤ progress record.phase → record.gateStatus = some "passed"
  reviewer : 2 ≤ progress record.phase → record.reviewerSessionId.isSome
  digest : 3 ≤ progress record.phase → Filled record.reviewResultDigest
  receipt : 4 ≤ progress record.phase → Finalized record
  reply : 5 ≤ progress record.phase → Filled record.replyMessageId ∧ Filled record.replyDeliveryId

theorem evidenced_of_progress_zero (early : progress record.phase = 0) : Evidenced record := by
  constructor <;> intro far <;> omega

def finalizedHead : ReviewSubmissionTransition → Option String
  | .denFinalized _ _ _ exactHeadCommit _ _ _ _ => some exactHeadCommit
  | _ => none

/-- A recorded verdict is about the submitted commit, or about a head `named` for the submission. -/
def Headed (named : String → String → Prop) (record : ReviewSubmissionRecord) : Prop :=
  record.reviewVerdict.isSome → ∃ head, record.reviewExactHeadCommit = some head ∧
    (Text.eqIgnoreAsciiCase head record.commitSha = true ∨ named record.submissionId head)

def KeepsHead (transition : ReviewSubmissionTransition) (record next : ReviewSubmissionRecord) :
    Prop :=
  ∀ {named : String → String → Prop}, (∀ head, finalizedHead transition = some head →
    named record.submissionId head) → Headed named record → Headed named next

structure Revised (old new : ReviewSubmissionRecord) : Prop where
  revision : old.revision < new.revision
  phase : reviewSubmissionTerminal old.phase → new.phase = old.phase

theorem Revised.trans (ab : Revised a b) (bc : Revised b c) : Revised a c where
  revision := Nat.lt_trans ab.revision bc.revision
  phase ended := by
    have same := ab.phase ended
    rw [bc.phase (same ▸ ended), same]

def Advances (before after : Submissions) : Prop :=
  ∀ id old, before.find? id = some old →
    ∃ new, after.find? id = some new ∧ (new = old ∨ Revised old new)

theorem advances_refl (submissions) : Advances submissions submissions :=
  fun _ old found => ⟨old, found, .inl rfl⟩

theorem advances_trans (ab : Advances a b) (bc : Advances b c) : Advances a c := by
  intro id old found
  obtain ⟨middle, foundMiddle, first⟩ := ab id old found
  obtain ⟨new, foundNew, second⟩ := bc id middle foundMiddle
  refine ⟨new, foundNew, ?_⟩
  rcases first with rfl | first
  · exact second
  · rcases second with rfl | second
    · exact .inr first
    · exact .inr (first.trans second)

theorem advances_put
    (revised : ∀ old, submissions.find? record.submissionId = some old → Revised old record) :
    Advances submissions (submissions.put record) := by
  intro id old found
  rw [find?_put]
  split
  · next same =>
    subst same
    exact ⟨record, rfl, .inr (revised old found)⟩
  · exact ⟨old, found, .inl rfl⟩

structure Sound (named : String → String → Prop) (start submissions : Submissions) : Prop where
  advances : Advances start submissions
  evidenced : ∀ record ∈ submissions.rows, Evidenced record
  headed : ∀ record ∈ submissions.rows, Headed named record

theorem Sound.put (sound : Sound named start submissions)
    (evidenced : Evidenced record) (headed : Headed named record)
    (revised : ∀ old, submissions.find? record.submissionId = some old → Revised old record) :
    Sound named start (submissions.put record) where
  advances := advances_trans sound.advances (advances_put revised)
  evidenced := forall_put sound.evidenced evidenced
  headed := forall_put sound.headed headed

/-! ## Transitions -/

structure Transitions (transition : ReviewSubmissionTransition)
    (record next : ReviewSubmissionRecord) : Prop where
  submissionId : next.submissionId = record.submissionId
  revision : next.revision = record.revision
  phase : reviewSubmissionTerminal record.phase → next.phase = record.phase
  evidenced : Evidenced record → Evidenced next
  headed : KeepsHead transition record next

theorem requireReviewPhase_eq
    (ok : requireReviewPhase record expected = .ok u) : record.phase = expected := by
  simpa [requireReviewPhase] using ok

theorem filled_some (filled : Text.isBlank value = false) :
    Filled (some value) := ⟨value, rfl, filled⟩

theorem transitions_of_live (live : reviewSubmissionTerminal record.phase = false)
    (sameId : next.submissionId = record.submissionId)
    (sameRevision : next.revision = record.revision)
    (headed : KeepsHead transition record next)
    (evidenced : Evidenced record → Evidenced next) : Transitions transition record next :=
  ⟨sameId, sameRevision, fun ended => by simp [live] at ended, evidenced, headed⟩

theorem transitions_of_required (required : requireReviewPhase record expected = .ok u)
    (live : reviewSubmissionTerminal expected = false)
    (sameId : next.submissionId = record.submissionId)
    (sameRevision : next.revision = record.revision) (headed : KeepsHead transition record next)
    (evidenced : record.phase = expected → Evidenced record → Evidenced next) :
    Transitions transition record next := by
  have phase := requireReviewPhase_eq required
  exact transitions_of_live (phase ▸ live) sameId sameRevision headed (evidenced phase)

def finalizationReceipt (record : ReviewSubmissionRecord) :=
  (record.reviewFinalizationId, record.reviewPacketId, record.reviewPacketMessageId,
    record.reviewExactHeadCommit, record.reviewVerdict, record.reviewTaskStatus)

theorem Finalized.of_same (finalized : Finalized record)
    (same : finalizationReceipt next = finalizationReceipt record) : Finalized next := by
  simp only [finalizationReceipt, Prod.mk.injEq] at same
  obtain ⟨finalization, packet, packetMessage, head, verdict, status⟩ := same
  exact ⟨finalization ▸ finalized.finalization, packet ▸ finalized.packet,
    packetMessage ▸ finalized.packetMessage, head ▸ finalized.exactHeadCommit,
    verdict ▸ finalized.verdict, status ▸ finalized.taskStatus⟩

theorem Evidenced.of_same (evidenced : Evidenced record)
    (phase : progress next.phase = progress record.phase)
    (gate : next.gateStatus = record.gateStatus)
    (reviewer : next.reviewerSessionId = record.reviewerSessionId)
    (digest : next.reviewResultDigest = record.reviewResultDigest)
    (receipt : finalizationReceipt next = finalizationReceipt record)
    (reply : (next.replyMessageId, next.replyDeliveryId) = (record.replyMessageId,
      record.replyDeliveryId)) : Evidenced next := by
  simp only [Prod.mk.injEq] at reply
  constructor
  · rw [phase, gate]
    exact evidenced.gate
  · rw [phase, reviewer]
    exact evidenced.reviewer
  · rw [phase, digest]
    exact evidenced.digest
  · rw [phase]
    exact fun far => (evidenced.receipt far).of_same receipt
  · rw [phase, reply.1, reply.2]
    exact evidenced.reply

theorem requireGatePhase_live (ok : requireGatePhase record gateStatus terminalReason = .ok u) :
    reviewSubmissionTerminal record.phase = false := by
  unfold requireGatePhase at ok
  split at ok
  · next checkless =>
    rw [checkless.1]
    rfl
  · rw [requireReviewPhase_eq ok]
    rfl

section
variable {now : IsoTimestamp}

theorem dispatchFailed_transitions
    (ok : dispatchFailed calendar record now reasonCode summary retryGeneration = .ok next) :
    Transitions transition record next := by
  simp only [dispatchFailed, bind_eq_ok, pure_eq_ok] at ok
  obtain ⟨retryAt, -, rfl⟩ := ok
  exact ⟨rfl, rfl, fun _ => rfl, fun evidenced => evidenced.of_same rfl rfl rfl rfl rfl rfl,
    fun _ => id⟩

theorem transitioned_transitions
    (ok : transitioned calendar record now transition = .ok (some next)) :
    Transitions transition record next := by
  cases transition
  all_goals simp only [transitioned, bind_eq_ok, pure_eq_ok, rejectIf_eq_ok, Option.some.injEq,
    not_or, Bool.not_eq_true] at ok
  case denHandoffRecorded | gateRegistered =>
    obtain ⟨_, required, _, -, rfl⟩ := ok
    refine transitions_of_required required rfl rfl rfl (fun _ => id) fun _ _ => ?_
    exact evidenced_of_progress_zero rfl
  case gateBypassed reason configRevision deploymentRole =>
    obtain ⟨_, admitted, _, -, rfl⟩ := ok
    have live : reviewSubmissionTerminal record.phase = false := by
      by_contra ended
      apply admitted
      constructor <;> intro phase <;> simp [phase, reviewSubmissionTerminal] at ended
    refine transitions_of_live live rfl rfl (fun _ => id) fun _ => ?_
    constructor <;> simp
  case gateTerminal gateStatus terminalReason =>
    obtain ⟨_, guarded, _, -, rfl⟩ := ok
    have live := requireGatePhase_live guarded
    refine transitions_of_live live rfl rfl (fun _ => id) fun _ => ?_
    by_cases passed : gateStatus = "passed"
    · subst passed
      constructor <;> simp
    · apply evidenced_of_progress_zero
      simp [passed]
  case adapterFailed reasonCode summary =>
    split at ok
    · cases ok
    · cases ok
      exact ⟨rfl, rfl, fun _ => rfl, fun evidenced => evidenced.of_same rfl rfl rfl rfl rfl rfl,
        fun _ => id⟩
  case reviewerDispatchFailed reasonCode summary retryGeneration =>
    obtain ⟨_, -, _, -, ok⟩ := ok
    split at ok
    · cases ok
    · simp only [bind_eq_ok, pure_eq_ok, Option.some.injEq] at ok
      obtain ⟨failed, ran, rfl⟩ := ok
      exact dispatchFailed_transitions ran
  case reviewerDispatched reviewerSessionId dispatchMessageId dispatchDeliveryId =>
    obtain ⟨_, pending, rfl⟩ := ok
    refine transitions_of_required pending rfl rfl rfl (fun _ => id) fun phase evidenced => ?_
    have gate := evidenced.gate (by simp [phase])
    constructor <;> simp [gate]
  case reviewerRedispatchPending reasonCode =>
    obtain ⟨_, dispatched, _, -, rfl⟩ := ok
    refine transitions_of_required dispatched rfl rfl rfl (fun _ => id) fun phase evidenced => ?_
    have gate := evidenced.gate (by simp [phase])
    constructor <;> simp [gate]
  case denFinalizationPending resultDigest resultJson =>
    obtain ⟨_, dispatched, _, filled, _, -, rfl⟩ := ok
    refine transitions_of_required dispatched rfl rfl rfl (fun _ => id) fun phase evidenced => ?_
    have gate := evidenced.gate (by simp [phase])
    have reviewer := evidenced.reviewer (by simp [phase])
    have digest : Filled (some resultDigest) := filled_some (by simp_all)
    constructor <;> simp [gate, reviewer, digest]
  case denFinalized finalizationId packetId packetMessageId exactHeadCommit verdict findingStatuses
      taskStatus materialDigest =>
    obtain ⟨_, pending, _, ⟨finalization, packet, packetMessage, head, verdictGiven, status⟩,
      rfl⟩ := ok
    refine transitions_of_required pending rfl rfl rfl
      (fun names _ _ => ⟨_, rfl, .inr (names _ rfl)⟩) fun phase evidenced => ?_
    have gate := evidenced.gate (by simp [phase])
    have reviewer := evidenced.reviewer (by simp [phase])
    have digest := evidenced.digest (by simp [phase])
    refine ⟨fun _ => gate, fun _ => reviewer, fun _ => digest, fun _ => ?_, by simp⟩
    exact ⟨⟨_, rfl, finalization⟩, ⟨_, rfl, packet⟩, ⟨_, rfl, packetMessage⟩, filled_some head,
      filled_some verdictGiven, filled_some status⟩
  case denAlreadyFinalized reviewRoundId exactHeadCommit verdict taskStatus terminalReason =>
    split at ok
    · cases ok
    · next live =>
      simp only [bind_eq_ok, pure_eq_ok, rejectIf_eq_ok, Option.some.injEq, not_or,
        Bool.not_eq_false] at ok
      obtain ⟨_, ⟨-, agrees, -⟩, rfl⟩ := ok
      refine transitions_of_live (by simpa using live) rfl rfl
        (fun _ _ _ => ⟨_, rfl, .inl agrees⟩) fun _ => ?_
      exact evidenced_of_progress_zero rfl
  case denTaskTerminal taskStatus terminalReason =>
    split at ok
    · cases ok
    · next live =>
      simp only [bind_eq_ok, pure_eq_ok, Option.some.injEq] at ok
      obtain ⟨_, -, rfl⟩ := ok
      refine transitions_of_live (by simpa using live) rfl rfl (fun _ => id) fun _ => ?_
      exact evidenced_of_progress_zero rfl
  case replyPending =>
    obtain ⟨_, finalized, rfl⟩ := ok
    refine transitions_of_required finalized rfl rfl rfl (fun _ => id) fun phase evidenced => ?_
    exact evidenced.of_same (by simp [phase]) rfl rfl rfl rfl rfl
  case replySent replyMessageId replyDeliveryId replyStatus =>
    obtain ⟨_, pending, _, ⟨message, delivery, -⟩, rfl⟩ := ok
    refine transitions_of_required pending rfl rfl rfl (fun _ => id) fun phase evidenced => ?_
    have reached : 4 ≤ progress record.phase := by simp [phase]
    exact ⟨fun _ => evidenced.gate (by omega), fun _ => evidenced.reviewer (by omega),
      fun _ => evidenced.digest (by omega), fun _ => (evidenced.receipt reached).of_same rfl,
      fun _ => ⟨filled_some message, filled_some delivery⟩⟩
  case replyTerminal reasonCode =>
    obtain ⟨_, finalized, rfl⟩ := ok
    have reached : reviewSubmissionTerminal record.phase = false ∧ progress record.phase = 4 := by
      by_cases phase : record.phase = .denFinalized
      · simp [phase, reviewSubmissionTerminal]
      · have pending : record.phase = .replyPending := by
          by_contra other
          exact finalized ⟨phase, other⟩
        simp [pending, reviewSubmissionTerminal]
    refine transitions_of_live reached.1 rfl rfl (fun _ => id) fun evidenced => ?_
    exact evidenced.of_same reached.2.symm rfl rfl rfl rfl rfl
  case gateFailureSettled terminalReason | reviewTerminal terminalReason =>
    split at ok
    · cases ok
    · next live =>
      cases ok
      refine transitions_of_live (by simpa using live) rfl rfl (fun _ => id) fun _ => ?_
      exact evidenced_of_progress_zero rfl

end

/-! ## Calls -/

section

theorem preserves_cursors (kept : ∀ e gateCursor projectCursors, P e →
      P { e with reviews := { e.reviews with gateCursor, projectCursors } }) :
    Preserves P (saveGithubGateEventCursors event) := by
  apply preserves_bind
  · refine upholds_saveReviews (fun e reviews saved pre => ?_) fun _ => id
    simp only [ReviewTables.saveProjectCursor, bind_eq_ok, pure_eq_ok] at saved
    obtain ⟨_, -, rfl⟩ := saved
    exact kept e _ _ pre
  · intro _
    refine upholds_saveReviews (fun e reviews saved pre => ?_) fun _ => id
    cases saved
    exact kept e _ _ pre

end

section
variable {I : Submissions → Prop}

/-! ### What leaves the submissions alone -/

@[simp] theorem preserves_saveGithubGateWait : Preserves (On I) (saveGithubGateWait wait) := by
  refine upholds_saveReviews (fun e reviews saved pre => ?_) fun _ => id
  simp only [ReviewTables.saveWait, bind_eq_ok, pure_eq_ok] at saved
  obtain ⟨_, -, rfl⟩ := saved
  exact pre

@[simp] theorem preserves_saveGithubGateEventCursors :
    Preserves (On I) (saveGithubGateEventCursors event) :=
  preserves_cursors fun _ _ _ => id

@[simp] theorem preserves_settleWait : Preserves (On I) (settleWait event phase wait) :=
  preserves_bind preserves_saveGithubGateWait fun _ => preserves_saveGithubGateEventCursors

@[simp] theorem preserves_inStore {α : Type}
    {statement : ExternalTables → CoreResult (α × ExternalTables)} :
    Preserves (On I) (inStore statement) :=
  upholds_inStore (fun _ _ _ _ => id) fun _ => id

@[simp] theorem preserves_inRegistry {α : Type}
    {f : RustyCrew.Engine.SessionRegistry → CoreResult (α × RustyCrew.Engine.SessionRegistry)} :
    Preserves (On I) (inRegistry f) :=
  upholds_inRegistry (fun _ _ _ _ => id) fun _ => id

@[simp] theorem preserves_publish {event : CoreEvent} : Preserves (On I) (publish event) :=
  upholds_publish (fun _ _ => id) fun _ => id

@[simp] theorem preserves_queuedMessageTtlMs : Preserves (On I) (queuedMessageTtlMs sessionId) := by
  simp [queuedMessageTtlMs]

section

@[simp] theorem preserves_wakeSubmitter {sessionId : SessionId} {now : IsoTimestamp} :
    Preserves (On I) (wakeSubmitter calendar record sessionId reasonCode summary now) := by
  unfold wakeSubmitter saveQueuedMessage
  repeat refine preserves_bind (by simp) fun _ => ?_
  simp

@[simp] theorem preserves_scheduleReviewSubmissionFailureWake {now : IsoTimestamp} :
    Preserves (On I)
      (scheduleReviewSubmissionFailureWake calendar record reasonCode summary now) := by
  unfold scheduleReviewSubmissionFailureWake
  split <;> simp

theorem preserves_besideTransition (record now transition) :
    Preserves (On I) (besideTransition calendar record now transition) := by
  unfold besideTransition awaitGate
  split
  · split <;> simp
  · split <;> simp
  · simp

@[simp] theorem preserves_wakeForGate {cursor : Nat} {agentId : AgentId} :
    Preserves (On I) (wakeForGate calendar event cursor wait agentId) := by
  unfold wakeForGate saveQueuedMessage
  repeat refine preserves_bind (by simp) fun _ => ?_
  simp

end

theorem preserves_suspendForGithubGate (request) :
    Preserves (On I) (suspendForGithubGate request) := by
  unfold suspendForGithubGate
  repeat refine preserves_bind (by simp) fun _ => ?_
  split
  · simp
  · repeat refine preserves_bind (by simp) fun _ => ?_
    simp

end

/-! ### What revises them -/

section
variable {start : Submissions}

def Holding (named : String → String → Prop) (start : Submissions)
    (record : ReviewSubmissionRecord) (submissions : Submissions) : Prop :=
  submissions.find? record.submissionId = some record ∧ Sound named start submissions

theorem upholds_revise (record) (sameId : next.submissionId = record.submissionId)
    (revised : Revised record next) (evidenced : Evidenced record → Evidenced next)
    (headed : Headed named record → Headed named next) :
    Upholds (On (Holding named start record)) (saveReviewSubmissionRecord next)
      (fun _ => On (Sound named start)) (On (Sound named start)) := by
  refine upholds_saveReviewSubmissionRecord (fun e held => ?_) fun _ held => held.2
  obtain ⟨stored, sound⟩ := held
  have isRow := mem_of_find? stored
  apply sound.put (evidenced (sound.evidenced record isRow)) (headed (sound.headed record isRow))
  intro old found
  rw [sameId, stored, Option.some_inj] at found
  exact found ▸ revised

theorem preserves_transitionReviewSubmission (calendar : Calendar)
    (request : ReviewSubmissionTransitionRequest)
    (names : ∀ head, finalizedHead request.transition = some head →
      named request.submissionId head) :
    Preserves (On (Sound named start)) (transitionReviewSubmission calendar request) := by
  apply upholds_bind (Q := fun found e =>
    (∀ record, found = some record → record.submissionId = request.submissionId ∧
      On (Holding named start record) e) ∧ On (Sound named start) e)
  · refine upholds_loadReviews (fun e found loaded sound => ?_) fun _ => id
    cases loaded
    refine ⟨fun record isFound => ⟨key_of_find? isFound, ?_, sound⟩, sound⟩
    rw [key_of_find? isFound]
    exact isFound
  intro found
  apply upholds_bind (Q := fun record e =>
    record.submissionId = request.submissionId ∧ On (Holding named start record) e)
  · exact upholds_require (fun record e isFound pre => pre.1 record isFound) fun _ pre => pre.2
  intro record
  apply upholds_assume
  intro isRequested
  apply upholds_then
  · exact upholds_lift (fun _ _ _ => id) fun _ held => held.2
  intro _
  apply upholds_bind (Q := fun next e =>
    transitioned calendar record request.now request.transition = .ok next ∧
      On (Holding named start record) e)
  · exact upholds_lift (fun _ _ known held => ⟨known, held⟩) fun _ held => held.2
  intro next
  apply upholds_assume
  intro known
  cases next with
  | none => exact upholds_pure fun _ held => held.2
  | some next =>
    have transitions := transitioned_transitions known
    apply upholds_then
    · exact (preserves_besideTransition next request.now request.transition).failing
        fun _ held => held.2
    intro _
    apply upholds_bind (Q := fun _ => On (Sound named start))
    · refine upholds_revise record transitions.submissionId ⟨?_, transitions.phase⟩
        (fun evidenced => ?_) (transitions.headed (isRequested ▸ names))
      · simp [transitions.revision]
      · exact (transitions.evidenced evidenced).of_same rfl rfl rfl rfl rfl rfl
    intro _
    exact preserves_pure

theorem afterGate_evidenced : Evidenced (afterGate event record) := by
  by_cases passed : event.status = "passed"
  · constructor <;> simp [afterGate, passed]
  · apply evidenced_of_progress_zero
    simp [afterGate, passed]

@[simp] theorem preserves_applyReviewGateTerminal :
    Preserves (On (Sound named start)) (applyReviewGateTerminal event) := by
  apply upholds_bind (upholds_listReviewSubmissionRecords fun _ => id)
  intro records
  split
  · exact upholds_pure fun _ listing => listing.2
  · next record found =>
    have listed := List.mem_of_find?_eq_some found
    have pending : record.phase = .gatePending := by
      have awaiting := List.find?_some found
      simp only [awaitsGate, Bool.and_eq_true, decide_eq_true_eq] at awaiting
      exact awaiting.1.1
    apply upholds_bind (Q := fun _ => On (Sound named start))
    · have revised : Revised record (afterGate event record) :=
        ⟨Nat.lt_succ_self _, by simp [pending, reviewSubmissionTerminal]⟩
      exact Upholds.starting (upholds_revise record rfl revised (fun _ => afterGate_evidenced) id)
        fun _ listing =>
        ⟨find?_of_mem (listing.1.mem_iff.mp listed), listing.2⟩
    · intro _
      exact preserves_pure

theorem preserves_markReviewReplyTerminal (dispatchMessageId : String) (now) :
    Preserves (On (Sound named start)) (markReviewReplyTerminal dispatchMessageId now) := by
  apply upholds_bind (upholds_listReviewSubmissionRecords fun _ => id)
  intro records
  split
  · exact upholds_pure fun _ listing => listing.2
  · next record found =>
    have listed := List.mem_of_find?_eq_some found
    have dispatched : record.phase = .reviewerDispatched := by
      have awaiting := List.find?_some found
      simp only [awaitsReply, Bool.and_eq_true, decide_eq_true_eq] at awaiting
      exact awaiting.1
    refine Upholds.starting (upholds_revise record rfl ⟨Nat.lt_succ_self _, ?_⟩
      (fun _ => evidenced_of_progress_zero rfl) id) fun _ listing =>
        ⟨find?_of_mem (listing.1.mem_iff.mp listed), listing.2⟩
    simp [dispatched, reviewSubmissionTerminal]

theorem preserves_consumeGithubGateTerminalEvent (calendar event) :
    Preserves (On (Sound named start)) (consumeGithubGateTerminalEvent calendar event) := by
  unfold consumeGithubGateTerminalEvent
  repeat refine preserves_bind (by simp) fun _ => ?_
  apply preserves_ite
  · simp
  intro _
  refine preserves_bind (by simp) fun waits => ?_
  split
  · simp [consumeUnawaited]
  · refine preserves_bind (by simp) fun session => preserves_ite (by simp) fun _ => ?_
    refine preserves_bind (by simp) fun submission => ?_
    split <;> simp

theorem Sound.sweep {before after : Submissions} {request : ReviewSubmissionRequest}
    (sound : Sound named start before) (sweeps : Sweeps request before after) :
    Sound named start after where
  advances := by
    refine advances_trans sound.advances fun id old found => ?_
    rcases sweeps id with kept | ⟨_, wasFound, isSuperseded, now⟩
    · exact ⟨old, kept.trans found, .inl rfl⟩
    · cases found.symm.trans wasFound
      refine ⟨_, now, .inr ⟨Nat.lt_succ_self _, fun ended => ?_⟩⟩
      simp [supersededBy, ended] at isSuperseded
  evidenced record stored := by
    rcases sweeps.row stored with isOld | ⟨old, -, -, rfl⟩
    · exact sound.evidenced record isOld
    · exact evidenced_of_progress_zero rfl
  headed record stored := by
    rcases sweeps.row stored with isOld | ⟨old, isOld, -, rfl⟩
    · exact sound.headed record isOld
    · exact sound.headed old isOld

theorem Sound.begun {before after : Submissions} {request : ReviewSubmissionRequest}
    {submitter : AgentId × Option SessionId} (sound : Sound named start before)
    (begun : Begun request submitter before record after) : Sound named start after := by
  cases begun with
  | found => exact sound
  | @based existing stored =>
    have isRow := mem_of_find? stored
    have evidenced := sound.evidenced existing isRow
    refine sound.put (evidenced.of_same rfl rfl rfl rfl rfl rfl) (sound.headed existing isRow) ?_
    intro old found
    cases (find?_of_mem isRow).symm.trans found
    exact ⟨Nat.lt_succ_self _, fun _ => rfl⟩
  | created absent sweeps =>
    refine (sound.sweep sweeps).put (evidenced_of_progress_zero rfl)
      (fun given => by cases given) ?_
    intro old found
    cases (sweeps.absent absent).symm.trans found

theorem preserves_beginReviewSubmission (request) :
    Preserves (On (Sound named start)) (beginReviewSubmission request) := by
  refine upholds_each fun engine sound => upholds_weaken
    (upholds_beginReviewSubmission request engine) (fun _ => id) ?_ fun _ => sound.sweep
  rintro record after ⟨submitter, -, begun⟩
  exact sound.begun begun

end

/-! ## Runs -/

def Names (named : String → String → Prop) (call : ReviewCall) : Prop :=
  ∀ request, call = .transition request → ∀ head, finalizedHead request.transition = some head →
    named request.submissionId head

theorem sound_review {engine : CoordinationEngine}
    (sound : Sound named start engine.reviews.submissions)
    (attendance : ReviewCall × (Nat → Surroundings)) (names : Names named attendance.1) :
    Sound named start (engine.review calendar attendance).reviews.submissions := by
  have kept : Preserves (On (Sound named start)) (attendance.1.perform calendar) := by
    cases call : attendance.1 with
    | beginSubmission request =>
      exact upholds_bind (preserves_beginReviewSubmission request) fun _ => preserves_pure
    | transition request =>
      have finalizes := names request call
      exact upholds_bind (preserves_transitionReviewSubmission calendar request finalizes)
        fun _ => preserves_pure
    | gateEvent event =>
      exact upholds_bind (preserves_consumeGithubGateTerminalEvent calendar event) fun _ =>
        preserves_pure
    | suspend request =>
      exact upholds_bind (preserves_suspendForGithubGate request) fun _ => preserves_pure
    | reviewerReply dispatchMessageId now =>
      exact preserves_markReviewReplyTerminal dispatchMessageId now
    | elsewhere other => exact fun _ _ => id
  have start : On (Sound named start) (Attended.mk engine attendance.2).state := sound
  exact (kept.preserves start).2

def submissionsAt (calendar : Calendar) (engine : CoordinationEngine)
    (attendances : List (ReviewCall × (Nat → Surroundings))) (n : Nat) : Submissions :=
  (stateAt (CoordinationEngine.review calendar) { engine with reviews := .empty } attendances
    n).reviews.submissions

section
variable (calendar : Calendar) (engine : CoordinationEngine)
  (attendances : List (ReviewCall × (Nat → Surroundings)))

theorem submissionsAt_sound (names : ∀ attendance ∈ attendances, Names named attendance.1)
    (n : Nat) : Sound named .empty (submissionsAt calendar engine attendances n) := by
  have start : On (Sound named .empty) { engine with reviews := .empty } :=
    ⟨advances_refl _, (fun _ stored => by cases stored), fun _ stored => by cases stored⟩
  have sound : On (Sound named .empty) (stateAt (CoordinationEngine.review calendar)
      { engine with reviews := .empty } attendances n) := by
    refine run_invariant ?_ start (along_of_forall (fun attendance => Names named attendance.1) ?_)
    · exact fun _ attendance sound names => sound_review sound attendance names
    · exact fun attendance listed => names attendance (List.mem_of_mem_take listed)
  exact sound

theorem names_any (call) : Names (fun _ _ => True) call :=
  fun _ _ _ _ => trivial

theorem submissionsAt_advances (n k : Nat) :
    Advances (submissionsAt calendar engine attendances n)
      (submissionsAt calendar engine attendances (n + k)) := by
  refine stateAt_relates (R := fun before after : CoordinationEngine =>
    Advances before.reviews.submissions after.reviews.submissions) (fun _ => advances_refl _)
    (fun _ _ _ => advances_trans) (fun position attendance _ => ?_) (Nat.le_add_right n k)
  have sound := submissionsAt_sound calendar engine attendances (fun _ _ => names_any _) position
  exact (sound_review ⟨advances_refl _, sound.evidenced, sound.headed⟩ attendance
    (names_any _)).advances

/-- Every stored submission has the evidence that its phase asks for, stays stored, is changed only
under a higher revision and keeps a final phase. -/
theorem review_submissions_evidenced (n k : Nat) :
    (∀ record ∈ (submissionsAt calendar engine attendances n).rows, Evidenced record) ∧
    ∀ id old, (submissionsAt calendar engine attendances n).find? id = some old → ∃ new,
        (submissionsAt calendar engine attendances (n + k)).find? id = some new ∧
        (new ≠ old → old.revision < new.revision) ∧
        (reviewSubmissionTerminal old.phase = true → new.phase = old.phase) := by
  have sound := submissionsAt_sound calendar engine attendances (fun _ _ => names_any _) n
  refine ⟨sound.evidenced, ?_⟩
  intro id old found
  obtain ⟨new, foundNew, change⟩ :=
    submissionsAt_advances calendar engine attendances n k id old found
  refine ⟨new, foundNew, ?_⟩
  rcases change with rfl | revised
  · exact ⟨fun changed => absurd rfl changed, fun _ => rfl⟩
  · exact ⟨fun _ => revised.revision, revised.phase⟩

/-- A recorded verdict is about the submitted commit if every finalization that was asked for names
that commit. -/
theorem verdict_about_submitted_commit (n : Nat)
    (submitted : ∀ attendance ∈ attendances, ∀ request, attendance.1 = .transition request →
      ∀ head, finalizedHead request.transition = some head → ∀ record,
        (submissionsAt calendar engine attendances n).find? request.submissionId = some record →
        Text.eqIgnoreAsciiCase head record.commitSha = true) :
    ∀ record ∈ (submissionsAt calendar engine attendances n).rows, record.reviewVerdict.isSome →
      ∃ head, record.reviewExactHeadCommit = some head ∧
        Text.eqIgnoreAsciiCase head record.commitSha = true := by
  intro record stored recorded
  have sound : Sound (fun submissionId head => ∃ attendance ∈ attendances, ∃ request,
      attendance.1 = .transition request ∧ request.submissionId = submissionId ∧
        finalizedHead request.transition = some head) .empty
      (submissionsAt calendar engine attendances n) :=
    submissionsAt_sound calendar engine attendances
      (fun attendance listed request call head finalized =>
        ⟨attendance, listed, request, call, rfl, finalized⟩) n
  obtain ⟨head, isHead, agrees | ⟨attendance, listed, request, call, isRequested, finalized⟩⟩ :=
    sound.headed record stored recorded
  · exact ⟨head, isHead, agrees⟩
  · refine ⟨head, isHead, submitted attendance listed request call head finalized record ?_⟩
    rw [isRequested]
    exact find?_of_mem stored

end

/-! ### A verdict about another commit -/

def timeless : Calendar := ⟨fun _ => .error "no calendar", fun _ _ => .error "no calendar"⟩

def transitionCall (revision : Nat) (transition : ReviewSubmissionTransition) : ReviewCall :=
  .transition ⟨reviewSubmissionId ⟨"project"⟩ ⟨"task"⟩ submittedCommit (.externalCli "cli" "key"),
    revision, transition, "2026-01-01T00:00:00Z"⟩

def reviewOn (head : String) : List (ReviewCall × (Nat → Surroundings)) :=
  [.beginSubmission cliSubmission, transitionCall 1 (.denHandoffRecorded 1),
    transitionCall 2 (.gateTerminal "passed" "no_required_checks"),
    transitionCall 3 (.reviewerDispatched ⟨"reviewer"⟩ "message" "delivery"),
    transitionCall 4 (.denFinalizationPending "digest" "result"),
    transitionCall 5 (.denFinalized 1 1 1 head "looks_good" [] "done" none)].map (·, quietly)

theorem verdict_about_another_commit :
    ∃ record ∈ (submissionsAt timeless idleEngine
        (reviewOn "bbbbbbbbbbbbbbbbbbbbbbbbbbbbbbbbbbbbbbbb") 6).rows,
      record.reviewVerdict = some "looks_good" ∧ record.commitSha = submittedCommit ∧
        record.reviewExactHeadCommit = some "bbbbbbbbbbbbbbbbbbbbbbbbbbbbbbbbbbbbbbbb" := by
  decide +kernel

theorem verdict_about_submitted_commit_reviewed :
    ∃ record ∈ (submissionsAt timeless idleEngine (reviewOn submittedCommit) 6).rows,
      record.reviewVerdict.isSome ∧ ∃ head, record.reviewExactHeadCommit = some head ∧
        Text.eqIgnoreAsciiCase head record.commitSha = true := by
  have reviewed : ∃ record ∈ (submissionsAt timeless idleEngine (reviewOn submittedCommit) 6).rows,
      record.reviewVerdict.isSome := by decide +kernel
  have same : ∀ record ∈ (submissionsAt timeless idleEngine (reviewOn submittedCommit) 6).rows,
      Text.eqIgnoreAsciiCase submittedCommit record.commitSha = true := by decide +kernel
  obtain ⟨record, stored, recorded⟩ := reviewed
  refine ⟨record, stored, recorded, verdict_about_submitted_commit timeless idleEngine
    (reviewOn submittedCommit) 6 ?_ record stored recorded⟩
  intro attendance listed request call head finalized record found
  simp only [reviewOn, List.map_cons, List.map_nil, List.mem_cons, List.not_mem_nil,
    or_false] at listed
  rcases listed with rfl | rfl | rfl | rfl | rfl | rfl <;> cases call <;> cases finalized
  exact same record (mem_of_find? found)

end RustyCrew.Proof.Coordination

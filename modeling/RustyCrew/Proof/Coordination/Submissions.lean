import RustyCrew.Proof.Coordination.Engine
import RustyCrew.Coordination.Reviews
import RustyCrew.Library.Runs

namespace RustyCrew.Proof.Coordination

open Library Protocol RustyCrew.Coordination CoordinationM Attended Table
open RustyCrew.Engine (Calendar Surroundings)

abbrev Submissions := Table ReviewSubmissionRecord.submissionId

def On (I : Submissions → Prop) (engine : CoordinationEngine) : Prop := I engine.reviews.submissions

variable {record : ReviewSubmissionRecord} {before after submissions : Submissions}
  {request : ReviewSubmissionRequest} {rest : List ReviewSubmissionRecord}

/-! ## Saving and listing -/

theorem upholds_saveReviewSubmissionRecord {P Q E : CoordinationEngine → Prop}
    (post : ∀ e, P e → Q { e with reviews := { e.reviews with
      submissions := e.reviews.submissions.put record } })
    (fails : ∀ e, P e → E e) :
    Upholds P (saveReviewSubmissionRecord record) (fun _ => Q) E := by
  apply upholds_then (upholds_loadReviews (fun _ _ _ => id) fails)
  intro found
  cases found with
  | some existing =>
    refine upholds_bind (Q := fun _ => Q) ?_ fun _ => upholds_pure fun _ => id
    refine upholds_inReviews (fun e a reviews updated pre => ?_) fails
    simp only [ReviewTables.updateReviewSubmission, bind_eq_ok, pure_eq_ok,
      Prod.mk.injEq] at updated
    obtain ⟨_, -, -, rfl⟩ := updated
    exact post _ pre
  | none =>
    refine upholds_bind (Q := fun _ => Q) ?_ fun _ => upholds_pure fun _ => id
    refine upholds_inReviews (fun e a reviews inserted pre => ?_) fails
    simp only [ReviewTables.insertReviewSubmission, bind_eq_ok, pure_eq_ok,
      Prod.mk.injEq] at inserted
    obtain ⟨_, -, -, rfl⟩ := inserted
    exact post _ pre

theorem upholds_listReviewSubmissionRecords {P E : CoordinationEngine → Prop}
    (fails : ∀ e, P e → E e) :
    Upholds P listReviewSubmissionRecords
      (fun records e => records.Perm e.reviews.submissions.rows ∧ P e) E := by
  refine upholds_loadReviews (fun e records listed pre => ⟨?_, pre⟩) fails
  cases listed
  exact List.perm_insertionSort _ _

@[simp] theorem preserves_submitterOf {P : CoordinationEngine → Prop}
    : Preserves P (submitterOf caller) := by
  unfold submitterOf
  split <;> simp

/-! ## What a new submission supersedes -/

def superseded (request : ReviewSubmissionRequest) (record : ReviewSubmissionRecord) :
    ReviewSubmissionRecord :=
  { record with
    phase := .superseded, terminalReason := some "newer_review_submission"
    updatedAt := request.now, revision := record.revision + 1 }

theorem not_supersededBy : supersededBy request (superseded request record) = false := by
  simp [supersededBy, superseded, reviewSubmissionTerminal]

def Sweeps (request : ReviewSubmissionRequest) (before after : Submissions) : Prop :=
  ∀ id, after.find? id = before.find? id ∨ ∃ old, before.find? id = some old ∧
    supersededBy request old = true ∧ after.find? id = some (superseded request old)

theorem sweeps_refl (submissions) : Sweeps request submissions submissions :=
  fun _ => .inl rfl

theorem Sweeps.row (sweeps : Sweeps request before after) (stored : record ∈ after.rows) :
    record ∈ before.rows ∨
      ∃ old ∈ before.rows, supersededBy request old = true ∧ record = superseded request old := by
  have found := find?_of_mem stored
  rcases sweeps record.submissionId with kept | ⟨old, wasFound, isSuperseded, now⟩
  · exact .inl (mem_of_find? (kept.symm.trans found))
  · exact .inr ⟨old, mem_of_find? wasFound, isSuperseded, Option.some.inj (found.symm.trans now)⟩

theorem Sweeps.absent {id : String} (sweeps : Sweeps request before after)
    (absent : before.find? id = none) : after.find? id = none := by
  rcases sweeps id with kept | ⟨old, found, -⟩
  · exact kept.trans absent
  · cases absent.symm.trans found

/-- The loop over the listed submissions has still to go through `rest`. -/
structure Sweeping (request : ReviewSubmissionRequest) (before : Submissions)
    (rest : List ReviewSubmissionRecord) (submissions : Submissions) : Prop where
  listed : submissions.Listed rest
  sweeps : Sweeps request before submissions
  remaining : ∀ record ∈ submissions.rows, supersededBy request record = true → record ∈ rest

theorem Sweeping.put (sweeping : Sweeping request before (record :: rest) submissions)
    (isSuperseded : supersededBy request record = true) :
    Sweeping request before rest (submissions.put (superseded request record)) where
  listed := sweeping.listed.put rfl
  sweeps id := by
    rw [find?_put]
    split
    · next same =>
      have stored := sweeping.listed.stored record (by simp)
      cases same
      rcases sweeping.sweeps record.submissionId with kept | ⟨old, -, -, now⟩
      · exact .inr ⟨record, kept.symm.trans stored, isSuperseded, rfl⟩
      · rw [Option.some.inj (stored.symm.trans now), not_supersededBy] at isSuperseded
        cases isSuperseded
    · exact sweeping.sweeps id
  remaining other stored again := by
    rcases mem_put.mp stored with rfl | ⟨stored, differs⟩
    · rw [not_supersededBy] at again
      cases again
    · rcases List.mem_cons.mp (sweeping.remaining other stored again) with rfl | later
      · exact absurd rfl differs
      · exact later

theorem upholds_supersedeReviewSubmission (record) (rest : List ReviewSubmissionRecord) :
    Upholds (On (Sweeping request before (record :: rest)))
      (supersedeReviewSubmission request record) (fun _ => On (Sweeping request before rest))
      (On (Sweeps request before)) := by
  unfold supersedeReviewSubmission
  split
  · next isSuperseded =>
    exact upholds_saveReviewSubmissionRecord (fun _ sweeping => sweeping.put isSuperseded)
      fun _ sweeping => sweeping.sweeps
  · next stays =>
    refine upholds_pure fun e sweeping =>
      ⟨sweeping.listed.tail, sweeping.sweeps, fun other stored isSuperseded => ?_⟩
    rcases List.mem_cons.mp (sweeping.remaining other stored isSuperseded) with rfl | later
    · exact absurd isSuperseded stays
    · exact later

/-! ## What beginning a submission does -/

def requestedId (request : ReviewSubmissionRequest) : String :=
  reviewSubmissionId request.projectId request.taskId request.commitSha request.caller

def rebased (request : ReviewSubmissionRequest) (existing : ReviewSubmissionRecord) :
    ReviewSubmissionRecord :=
  { existing with
    baseCommit := request.baseCommit, updatedAt := request.now
    revision := existing.revision + 1 }

def opened (request : ReviewSubmissionRequest) (submitter : AgentId × Option SessionId) :
    ReviewSubmissionRecord :=
  newReviewSubmission (requestedId request) submitter.1 submitter.2 request

inductive Begun (request : ReviewSubmissionRequest) (submitter : AgentId × Option SessionId)
    (before : Submissions) : ReviewSubmissionRecord → Submissions → Prop
  | found {existing : ReviewSubmissionRecord}
      (stored : before.find? (requestedId request) = some existing) :
      Begun request submitter before existing before
  | based {existing : ReviewSubmissionRecord}
      (stored : before.find? (requestedId request) = some existing)
      (same : validateDuplicateReviewSubmission existing request = .ok ()) :
      Begun request submitter before (rebased request existing)
        (before.put (rebased request existing))
  | created {swept : Submissions} (absent : before.find? (requestedId request) = none)
      (sweeps : Sweeps request before swept)
      (ended : ∀ record ∈ swept.rows, supersededBy request record = false) :
      Begun request submitter before (opened request submitter)
        (swept.put (opened request submitter))

def Resolves (engine : CoordinationEngine) (caller : AgentCoordinationCaller)
    (submitter : AgentId × Option SessionId) : Prop :=
  ∃ asked answered, asked.state = engine ∧ submitterOf caller asked = (.ok submitter, answered)

theorem upholds_beginReviewSubmission (request engine) :
    Upholds (· = engine) (beginReviewSubmission request)
      (fun record after => ∃ submitter, Resolves engine request.caller submitter ∧
        On (Begun request submitter engine.reviews.submissions record) after)
      (On (Sweeps request engine.reviews.submissions)) := by
  have untouched : ∀ e, e = engine → On (Sweeps request engine.reviews.submissions) e := by
    rintro e rfl
    exact sweeps_refl _
  apply upholds_then (preserves_lift.failing untouched)
  intro _
  apply upholds_bind (preserves_submitterOf.returned.failing untouched)
  intro submitter
  apply upholds_assume
  rintro ⟨asked, answered, resolved⟩
  refine Upholds.returning (?_ : Upholds _ _ (fun record =>
    On (Begun request submitter engine.reviews.submissions record)) _)
    fun _ _ begun => ⟨submitter, ⟨asked, answered, resolved⟩, begun⟩
  apply upholds_bind (Q := fun found e =>
    engine.reviews.submissions.find? (requestedId request) = found ∧ e = engine)
  · refine upholds_loadReviews (fun e found loaded same => ?_) untouched
    cases loaded
    exact ⟨same ▸ rfl, same⟩
  intro found
  apply upholds_assume
  intro stored
  cases found with
  | some existing =>
    apply upholds_bind (Q := fun _ e =>
      validateDuplicateReviewSubmission existing request = .ok () ∧ e = engine)
    · exact upholds_lift (fun _ _ known same => ⟨known, same⟩) untouched
    intro _
    apply upholds_assume
    intro same
    split
    · apply upholds_bind (upholds_saveReviewSubmissionRecord _ untouched)
      · exact fun _ => upholds_pure fun _ => id
      · rintro e rfl
        exact .based stored same
    · apply upholds_pure
      rintro e rfl
      exact .found stored
  | none =>
    apply upholds_bind (Q := fun records =>
      On (Sweeping request engine.reviews.submissions records))
    · refine (upholds_listReviewSubmissionRecords untouched).returning ?_
      rintro records e ⟨perm, rfl⟩
      have listed : records.Perm (e.reviews.submissions.select fun _ => true) := by
        simpa [select] using perm
      exact ⟨listed_of_perm listed, sweeps_refl _, fun _ stored _ => perm.mem_iff.mpr stored⟩
    intro records
    apply upholds_bind (upholds_forEach_rest
      (P := fun rest => On (Sweeping request engine.reviews.submissions rest))
      upholds_supersedeReviewSubmission)
    intro _
    apply upholds_bind (upholds_saveReviewSubmissionRecord _ fun _ sweeping => sweeping.sweeps)
    · exact fun _ => upholds_pure fun _ => id
    · intro e sweeping
      refine .created stored sweeping.sweeps fun record isRow => ?_
      simpa using sweeping.remaining record isRow

/-! ## Whom and what a submission concerns -/

def submittedBy (record : ReviewSubmissionRecord) : AgentId × Option SessionId :=
  (record.submitterAgentId, record.submitterSessionId)

def Contends (request : ReviewSubmissionRequest) (record : ReviewSubmissionRecord) : Prop :=
  record.projectId = request.projectId ∧ record.taskId = request.taskId ∧
    reviewSubmissionTerminal record.phase = false

def OneCommit (request : ReviewSubmissionRequest) (submissions : Submissions) : Prop :=
  ∀ a ∈ submissions.rows, ∀ b ∈ submissions.rows, Contends request a → Contends request b →
    Text.eqIgnoreAsciiCase a.commitSha b.commitSha = true

theorem oneCommit_iff : OneCommit request submissions ↔
    ∀ a b, (∃ row ∈ submissions.rows, Contends request row ∧ row.commitSha = a) →
      (∃ row ∈ submissions.rows, Contends request row ∧ row.commitSha = b) →
      Text.eqIgnoreAsciiCase a b = true := by
  constructor
  · rintro agreed _ _ ⟨a, isA, onA, rfl⟩ ⟨b, isB, onB, rfl⟩
    exact agreed a isA b isB onA onB
  · exact fun agreed a isA b isB onA onB => agreed _ _ ⟨a, isA, onA, rfl⟩ ⟨b, isB, onB, rfl⟩

def Elsewhere (request : ReviewSubmissionRequest) (record : ReviewSubmissionRecord) : Prop :=
  record.projectId ≠ request.projectId ∨ record.taskId ≠ request.taskId

variable {submitter : AgentId × Option SessionId}

theorem Begun.submitted (begun : Begun request submitter before record after) :
    submittedBy record = submitter ↔
      ∀ existing, before.find? (requestedId request) = some existing →
        submittedBy existing = submitter := by
  cases begun with
  | found stored => simp [stored]
  | @based existing stored => simp [stored, submittedBy, rebased]
  | created absent => simp [absent, submittedBy, opened, newReviewSubmission]

theorem Begun.oneCommit (begun : Begun request submitter before record after) :
    OneCommit request after ↔
      (before.find? (requestedId request) ≠ none → OneCommit request before) := by
  cases begun with
  | found stored => simp [stored]
  | @based existing stored =>
    have same : ∀ commit, (∃ row ∈ (before.put (rebased request existing)).rows,
          Contends request row ∧ row.commitSha = commit) ↔
        ∃ row ∈ before.rows, Contends request row ∧ row.commitSha = commit := by
      intro commit
      constructor
      · rintro ⟨row, isRow, contends, commits⟩
        rcases mem_put.mp isRow with rfl | ⟨isOld, -⟩
        · exact ⟨existing, mem_of_find? stored, contends, commits⟩
        · exact ⟨row, isOld, contends, commits⟩
      · rintro ⟨row, isOld, contends, commits⟩
        by_cases again : row.submissionId = existing.submissionId
        · have merged := List.inj_on_of_nodup_map before.unique isOld (mem_of_find? stored) again
          rw [merged] at contends commits
          exact ⟨rebased request existing, mem_put.mpr (.inl rfl), contends, commits⟩
        · exact ⟨row, mem_put.mpr (.inr ⟨isOld, again⟩), contends, commits⟩
    rw [oneCommit_iff, oneCommit_iff]
    simp [same, stored]
  | @created swept absent sweeps ended =>
    have requested : ∀ a ∈ (swept.put (opened request submitter)).rows, Contends request a →
        Text.toAsciiLowercase a.commitSha = Text.toAsciiLowercase request.commitSha := by
      refine forall_put (fun a stored contends => ?_) fun _ => Text.toAsciiLowercase_idem _
      have stays := ended a stored
      simpa [supersededBy, contends.2.1, contends.2.2, Text.eqIgnoreAsciiCase] using stays
    simp only [absent, ne_eq, not_true_eq_false, false_implies, iff_true]
    intro a isA b isB onA onB
    rw [Text.eqIgnoreAsciiCase, requested a isA onA, requested b isB onB, decide_eq_true rfl]

theorem Begun.elsewhere (begun : Begun request submitter before record after)
    (apart : before.find? (requestedId request) = none → ∀ old ∈ before.rows,
      old.projectId ≠ request.projectId → supersededBy request old = false)
    (elsewhere : Elsewhere request other) : other ∈ after.rows ↔ other ∈ before.rows := by
  cases begun with
  | found => rfl
  | @based existing stored same =>
    simp only [validateDuplicateReviewSubmission, rejectIf_eq_ok, not_not] at same
    have here : ¬Elsewhere request existing := by simp [Elsewhere, same]
    rw [mem_put]
    constructor
    · rintro (rfl | ⟨isOld, -⟩)
      · exact absurd elsewhere here
      · exact isOld
    · intro isOld
      refine .inr ⟨isOld, fun again => here ?_⟩
      rw [← List.inj_on_of_nodup_map before.unique isOld (mem_of_find? stored) again]
      exact elsewhere
  | @created swept absent sweeps ended =>
    have spared {old : ReviewSubmissionRecord} (stored : old ∈ before.rows)
        (elsewhere : Elsewhere request old) : ¬supersededBy request old = true := by
      rcases elsewhere with project | task
      · simp [apart absent old stored project]
      · simp [supersededBy, task]
    rw [mem_put]
    constructor
    · rintro (rfl | ⟨isSwept, -⟩)
      · simp [Elsewhere, opened, newReviewSubmission] at elsewhere
      · rcases sweeps.row isSwept with isOld | ⟨old, isOld, isSuperseded, rfl⟩
        · exact isOld
        · exact absurd isSuperseded (spared isOld elsewhere)
    · intro isOld
      have found := find?_of_mem isOld
      refine .inr ⟨?_, fun again => ?_⟩
      · rcases sweeps other.submissionId with kept | ⟨old, wasFound, isSuperseded, -⟩
        · exact mem_of_find? (kept.trans found)
        · cases found.symm.trans wasFound
          exact absurd isSuperseded (spared isOld elsewhere)
      · rw [again] at found
        cases absent.symm.trans found

/-- A record that the sweep supersedes is no longer stored as it was. -/
theorem Begun.apart (begun : Begun request submitter before record after)
    (frame : ∀ other, Elsewhere request other → (other ∈ after.rows ↔ other ∈ before.rows))
    (absent : before.find? (requestedId request) = none) (stored : old ∈ before.rows)
    (project : old.projectId ≠ request.projectId) : supersededBy request old = false := by
  have kept := (frame old (.inl project)).mpr stored
  cases begun with
  | found isFound | based isFound => cases absent.symm.trans isFound
  | created _ _ ended =>
    rcases mem_put.mp kept with rfl | ⟨isSwept, -⟩
    · exact absurd rfl project
    · exact ended old isSwept

/-- A submission that begins names the submitter its caller resolves to unless its id is another
submitter's, leaves one commit under review unless a repeated request finds several, and leaves the
other projects and tasks alone unless it is new and another project has an open submission of
another commit for a task of that id. -/
theorem begun_submission_scoped_iff {asked answered : Attended CoordinationEngine Surroundings}
    (begun : beginReviewSubmission request asked = (.ok record, answered)) :
    (∃ submitter, Resolves asked.state request.caller submitter ∧
      (submittedBy record = submitter ↔ ∀ existing,
        asked.state.reviews.submissions.find? (requestedId request) = some existing →
          submittedBy existing = submitter)) ∧
    (OneCommit request answered.state.reviews.submissions ↔
      (asked.state.reviews.submissions.find? (requestedId request) ≠ none →
        OneCommit request asked.state.reviews.submissions)) ∧
    ((∀ other, Elsewhere request other → (other ∈ answered.state.reviews.submissions.rows ↔
        other ∈ asked.state.reviews.submissions.rows)) ↔
      (asked.state.reviews.submissions.find? (requestedId request) = none →
        ∀ old ∈ asked.state.reviews.submissions.rows, old.projectId ≠ request.projectId →
          supersededBy request old = false)) := by
  have ran := upholds_beginReviewSubmission request asked.state asked.answers asked
    ⟨⟨0, fun _ => rfl⟩, rfl⟩
  rw [begun] at ran
  obtain ⟨-, submitter, resolves, begins⟩ := ran
  refine ⟨⟨submitter, resolves, begins.submitted⟩, begins.oneCommit, ?_, ?_⟩
  · exact fun frame absent old stored => begins.apart frame absent stored
  · exact fun apart other => begins.elsewhere apart

/-! ### Submissions that meet -/

def submittedCommit : String := "aaaaaaaaaaaaaaaaaaaaaaaaaaaaaaaaaaaaaaaa"

def otherCommit : String := "bbbbbbbbbbbbbbbbbbbbbbbbbbbbbbbbbbbbbbbb"

def cliSubmission : ReviewSubmissionRequest :=
  ⟨.externalCli "cli" "key", ⟨"project"⟩, ⟨"task"⟩, "owner/repository", submittedCommit, "main", [],
    none, "summary", "@reviewer", "2026-01-01T00:00:00Z"⟩

def idleEngine : CoordinationEngine := ⟨.empty, .empty, .empty, [], fun _ => none, fun _ => []⟩

def quietly (_ : Nat) : Surroundings := ⟨"2026-01-01T00:00:00Z", none, 0, false, [], true⟩

def begunAfter (first second : ReviewSubmissionRequest) :=
  beginReviewSubmission second (beginReviewSubmission first ⟨idleEngine, quietly⟩).2

theorem begun_submission_reaches_others :
    (∃ record ∈ (begunAfter cliSubmission { cliSubmission with
        projectId := ⟨"other"⟩, commitSha := otherCommit }).2.state.reviews.submissions.rows,
      record.projectId = ⟨"project"⟩ ∧ record.phase = .superseded) ∧
    (begunAfter { cliSubmission with caller := .externalCli "a" "b|c" }
        { cliSubmission with caller := .externalCli "a|b" "c" }).1.map submittedBy =
      .ok (⟨"external-cli:a"⟩, none) := by
  decide +kernel

theorem begun_submission_scoped_sample :
    let request := { cliSubmission with commitSha := otherCommit }
    let ran := begunAfter cliSubmission request
    ran.1.map submittedBy = .ok (⟨"external-cli:cli"⟩, none) ∧
      OneCommit request ran.2.state.reviews.submissions ∧
      ∀ other, Elsewhere request other → (other ∈ ran.2.state.reviews.submissions.rows ↔
        other ∈ (beginReviewSubmission cliSubmission
          ⟨idleEngine, quietly⟩).2.state.reviews.submissions.rows) := by
  intro request ran
  have submitted : ran.1.map submittedBy = .ok (⟨"external-cli:cli"⟩, none) := by decide +kernel
  cases outcome : ran with
  | mk result answered =>
    cases result with
    | error failure => simp [outcome, Except.map] at submitted
    | ok record =>
      obtain ⟨-, commit, elsewhere⟩ := begun_submission_scoped_iff outcome
      refine ⟨outcome ▸ submitted, commit.mpr fun stored => absurd ?_ stored, elsewhere.mpr ?_⟩
      · decide +kernel
      · decide +kernel

end RustyCrew.Proof.Coordination

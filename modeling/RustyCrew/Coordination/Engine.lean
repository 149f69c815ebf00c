import RustyCrew.Coordination.MessageStore
import RustyCrew.Coordination.ReviewStore
import RustyCrew.Engine.Delegation

namespace RustyCrew.Coordination

open Library Protocol
open RustyCrew.Engine (SessionRegistry Surroundings)

/-! ## The part of the engine that connects agents -/

inductive AttachmentStatus where
  | active
  | removed
  deriving DecidableEq, Repr

structure ChatAttachment where
  attachmentId : String
  status : AttachmentStatus
  mimeType : String
  byteSize : Nat
  storageUrl : Option String
  deriving DecidableEq, Repr

/-- The registry of sessions lives in memory, the tables in the coordination store. Of the event
bus only the events that were published so far are kept, of the profiles their names, of the
attachments what a query for a session returns. -/
structure CoordinationEngine where
  registry : SessionRegistry
  tables : ExternalTables
  reviews : ReviewTables
  published : List CoreEvent
  displayName : ProfileId → Option String
  attachments : SessionId → List ChatAttachment

abbrev CoordinationM := Effect (Attended CoordinationEngine Surroundings) CoreError

namespace CoordinationM

def now : CoordinationM IsoTimestamp := do
  let outside ← Attended.ask
  pure outside.now

def reject {α : Type} (kind : CoreErrorKind) (message : String) : CoordinationM α :=
  Effect.lift (.error ⟨kind, message⟩)

def call : CoordinationM Surroundings := do
  let outside ← Attended.ask
  match outside.fault with
  | some failure => Effect.lift (.error failure)
  | none => pure outside

def inStore {α : Type} (statement : ExternalTables → CoreResult (α × ExternalTables)) :
    CoordinationM α := do
  let _ ← call
  Attended.transact fun engine => do
    let (answer, tables) ← statement engine.tables
    pure (answer, { engine with tables })

def load {α : Type} (query : ExternalTables → α) : CoordinationM α :=
  inStore fun tables => pure (query tables, tables)

def inReviews {α : Type} (statement : ReviewTables → CoreResult (α × ReviewTables)) :
    CoordinationM α := do
  let _ ← call
  Attended.transact fun engine => do
    let (answer, reviews) ← statement engine.reviews
    pure (answer, { engine with reviews })

def loadReviews {α : Type} (query : ReviewTables → CoreResult α) : CoordinationM α :=
  inReviews fun reviews => do pure (← query reviews, reviews)

def saveReviews (write : ReviewTables → CoreResult ReviewTables) : CoordinationM Unit :=
  inReviews fun reviews => do pure ((), ← write reviews)

def inRegistry {α : Type} (f : SessionRegistry → CoreResult (α × SessionRegistry)) :
    CoordinationM α :=
  Attended.transact fun engine => do
    let (answer, registry) ← f engine.registry
    pure (answer, { engine with registry })

def lookUp {α : Type} (query : SessionRegistry → CoreResult α) : CoordinationM α :=
  inRegistry fun registry => do pure (← query registry, registry)

def getSession (sessionId : SessionId) : CoordinationM SessionState :=
  lookUp fun registry => registry.getSession sessionId

def findSession (sessionId : SessionId) : CoordinationM (Option SessionState) :=
  lookUp fun registry => pure (registry.sessions.find? sessionId)

def consult {α : Type} (query : CoordinationEngine → α) : CoordinationM α := do
  let _ ← call
  Attended.transact fun engine => pure (query engine, engine)

def publish (event : CoreEvent) : CoordinationM Nat := do
  let outside ← call
  Attended.transact fun engine =>
    pure (outside.sequence, { engine with published := engine.published ++ [event] })

def require {α : Type} (value : Option α) (kind : CoreErrorKind) (message : String) :
    CoordinationM α :=
  Effect.lift (orFail value ⟨kind, message⟩)

def refuse (refused : Prop) [Decidable refused] (kind : CoreErrorKind) (message : String) :
    CoordinationM Unit :=
  Effect.lift (rejectIf refused ⟨kind, message⟩)

end CoordinationM

open CoordinationM

def AgentMessageDeliveryReceipt.observed (receipt : AgentMessageDeliveryReceipt) : CoreEvent :=
  .agentMessageDeliveryObserved
    ⟨receipt.request.fromAgentId, receipt.request.fromSessionId, receipt.request.toAgentId,
      receipt.request.toSessionId⟩

def AgentCorrelatedRound.observed (round : AgentCorrelatedRound) : CoreEvent :=
  .agentRoundObserved
    ⟨round.senderAgentId, round.senderSessionId, round.recipientAgentId, round.recipientSessionId⟩

/-! ## Callers -/

structure ResolvedCaller where
  agentId : AgentId
  sessionId : Option SessionId
  requestId : Option ExternalTurnRequestId
  deriving DecidableEq, Repr

def loadReviewSubmissionRecord (submissionId : String) :
    CoordinationM (Option ReviewSubmissionRecord) :=
  loadReviews fun reviews => pure (reviews.getReviewSubmission submissionId)

def checkSubmitterSession (record : ReviewSubmissionRecord) : CoordinationM Unit :=
  match record.submitterSessionId with
  | none => pure ()
  | some sessionId => do
    let session ← getSession sessionId
    refuse (session.status = .archived ∨ session.agentId ≠ record.submitterAgentId)
      .sessionExpired "review_submission_submitter_session_changed"

def reviewerCaller (record : ReviewSubmissionRecord) : CoordinationM ResolvedCaller := do
  let reviewerSessionId ← require record.reviewerSessionId .actionRejected
    "review_submission_reviewer_session_missing"
  let session ← getSession reviewerSessionId
  refuse (session.status = .archived) .sessionExpired "review_submission_reviewer_session_archived"
  pure ⟨session.agentId, some reviewerSessionId, none⟩

def resolveReviewSubmissionCaller (submissionId : String) : CoordinationM ResolvedCaller := do
  let record ← require (← loadReviewSubmissionRecord submissionId) .notFound
    "review_submission_caller_not_found"
  match record.phase with
  | .reviewerDispatchPending => do
    checkSubmitterSession record
    pure ⟨record.submitterAgentId, record.submitterSessionId, none⟩
  | .reviewerDispatched | .denFinalizationPending | .denFinalized | .replyPending =>
    reviewerCaller record
  | _ => reject .actionRejected "review_submission_caller_not_replyable"

def isNativeTurn (bindingId : ExternalBindingId) (nativeThreadId nativeTurnId : String)
    (turn : ExternalTurnCorrelation) : Bool :=
  turn.request.bindingId = bindingId && turn.nativeThreadId = nativeThreadId &&
    turn.nativeTurnId = some nativeTurnId

/-- A routable binding has an agent and a session. -/
def externalCaller (runtimeId : ExternalRuntimeId) (bindingId : ExternalBindingId)
    (controllerInstanceId : String) (controllerGeneration : Nat)
    (nativeThreadId nativeTurnId : String) : CoordinationM ResolvedCaller := do
  let lease ← require (← load fun tables => tables.controllerLeases.find? runtimeId)
    .actionRejected "external coordination caller has no controller lease"
  let time ← now
  refuse (lease.holderInstanceId ≠ controllerInstanceId ∨ lease.generation ≠ controllerGeneration ∨
      lease.expiresAt ≤ time)
    .actionRejected "external coordination caller does not hold the current controller lease"
  let binding ← require (← load fun tables => tables.bindings.find? bindingId)
    .notFound "external binding was not found"
  refuse (binding.isRoutable = false ∨ binding.runtimeId ≠ runtimeId ∨
      binding.nativeThreadId ≠ some nativeThreadId)
    .actionRejected "external coordination caller does not match its durable binding"
  let turns ← load ExternalTables.listNonterminalExternalTurns
  let turn ← require (turns.find? (isNativeTurn bindingId nativeThreadId nativeTurnId))
    .actionRejected "external coordination caller is not the active native turn"
  let agentId ← require binding.agentId .internalError "routable binding has agent id"
  let sessionId ← require binding.sessionId .internalError "routable binding has session id"
  pure ⟨agentId, some sessionId, some turn.requestId⟩

def resolveCoordinationCaller : AgentCoordinationCaller → CoordinationM ResolvedCaller
  | .system senderAgentId => pure ⟨senderAgentId, none, none⟩
  | .directBrain sessionId _ _ => do
    let session ← getSession sessionId
    refuse (session.status = .archived) .sessionExpired
      "archived direct-brain session cannot send agent messages"
    pure ⟨session.agentId, some session.sessionId, none⟩
  | .externalAgent runtimeId bindingId controllerInstanceId controllerGeneration nativeThreadId
      nativeTurnId _ =>
      externalCaller runtimeId bindingId controllerInstanceId controllerGeneration nativeThreadId
        nativeTurnId
  | .externalCli _ _ => reject .actionRejected "external_cli_caller_is_review_submission_only"
  | .reviewSubmission submissionId => resolveReviewSubmissionCaller submissionId

end RustyCrew.Coordination

import RustyCrew.Persistence.Postgres
import RustyCrew.Proof.Lifecycle.Consistency
import RustyCrew.Proof.Lifecycle.Fencing

namespace RustyCrew.Proof.Persistence.Postgres

open Library Protocol RustyCrew.Persistence RustyCrew.Persistence.Postgres Database
open RustyCrew.Proof.Lifecycle

variable {α : Type} {s s₁ : Store} {edits : List (Store → Store)}
variable {request : LogicalTurnCancelRequest} {receipt : LogicalTurnCancellationReceipt}
  {row : CancelReceiptRow} {db : Clients} {client : Bool}

/-! ## One client on its own

Without a second client the statements of a cancellation do what the one transaction of the
embedded store does. -/

def Reaches (s : Store) (edits : List (Store → Store)) (piece : Tx α) (s₁ : Store)
    (next : Tx α) : Prop :=
  ∃ edits', replay edits' s = s₁ ∧ piece.alone s edits = next.alone s edits'

theorem reaches_insertOutboxPg {event : LogicalTurnLifecycleEvent} {next : Tx α}
    (inserted : (replay edits s).insertOutbox event = .ok s₁) :
    Reaches s edits (insertOutboxPg event next) s₁ next := by
  unfold Store.insertOutbox at inserted
  cases found : (replay edits s).outbox.find? event.projectionId with
  | some existing =>
    simp only [found] at inserted
    split at inserted
    · cases inserted
    · next same =>
      cases inserted
      refine ⟨edits, rfl, ?_⟩
      simp only [insertOutboxPg, Transaction.alone, found, same, if_false]
  | none =>
    simp only [found] at inserted
    cases inserted
    refine ⟨edits ++ [fun s => { s with outbox := s.outbox.put ⟨event, none⟩ }], by simp, ?_⟩
    simp only [insertOutboxPg, insertRow, Transaction.alone, found, Option.isSome_none,
      Bool.false_eq_true, if_false]

theorem reaches_updateTurnPg {revision : Nat} {next : Tx α}
    (updated : (replay edits s).updateTurn record revision = .ok s₁) :
    Reaches s edits (updateTurnPg record revision next) s₁ next := by
  unfold Store.updateTurn at updated
  split at updated
  · next stored =>
    cases updated
    refine ⟨edits ++ [fun s => { s with turns := s.turns.put record }], by simp, ?_⟩
    simp only [updateTurnPg, Transaction.alone, stored, if_true]
  · cases updated

theorem reaches_cancelActiveTurnPg {next : LogicalTurnRecord → Tx α}
    (accepted : (replay edits s).cancelActiveTurn record request = .ok (s₁, cancelled)) :
    Reaches s edits (cancelActiveTurnPg record request next) s₁ (next cancelled) := by
  simp only [Store.cancelActiveTurn, bind_eq_ok, Except.ok.injEq, Prod.mk.injEq] at accepted
  obtain ⟨_, revision, progress, loaded, s₂, requested, s₃, updated, s₄, final, rfl, rfl⟩
    := accepted
  obtain ⟨edits₂, rfl, alone₂⟩ := reaches_insertOutboxPg requested
  obtain ⟨edits₃, rfl, alone₃⟩ := reaches_updateTurnPg updated
  obtain ⟨edits₄, rfl, alone₄⟩ := reaches_insertOutboxPg final
  refine ⟨edits₄ ++ [fun s => s.deleteTicket record.logicalTurnId], by simp [cancelledRecord,
    releaseClaim], ?_⟩
  simp only [cancelActiveTurnPg, revision, currentProgressPg, Transaction.alone, loaded]
  exact alone₂.trans (alone₃.trans alone₄)

theorem alone_saveCancelReceiptPg
    (saved : (replay edits s).insertCancelReceipt request receipt = .ok s₁) :
    (saveCancelReceiptPg request receipt).alone s edits = (.ok receipt, s₁) := by
  obtain ⟨absent, rfl⟩ := insertCancelReceipt_ok saved
  simp [saveCancelReceiptPg, insertRow, Transaction.alone, absent]

theorem alone_cancelLogicalTurn (accepted : s.cancelLogicalTurn request = .ok (s', receipt)) :
    (cancelLogicalTurn request).alone s [] = (.ok receipt, s') := by
  rcases cancelLogicalTurn_ok accepted with ⟨row, found, rfl, rfl⟩ |
    ⟨record, absent, stored, ended⟩
  · simp only [cancelLogicalTurn, Transaction.alone, replay_nil, found,
      Bool.false_eq_true, if_false]
  simp only [cancelLogicalTurn, Transaction.alone, replay_nil, absent, cancelLockedTurn, stored]
  rcases ended with ⟨terminal, rfl, saved⟩ | ⟨active, rfl, s₁, cancelled, saved⟩
  · simp only [terminal, if_true]
    exact alone_saveCancelReceiptPg saved
  · have cancels : Reaches s [] (cancelActiveTurnPg record request fun cancelled =>
        saveCancelReceiptPg request ⟨cancelled, false, false⟩) s₁
        (saveCancelReceiptPg request ⟨cancelledRecord record request.now, false, false⟩) :=
      reaches_cancelActiveTurnPg cancelled
    obtain ⟨edits, rfl, alone⟩ := cancels
    simp only [active, Bool.false_eq_true, if_false]
    exact alone.trans (alone_saveCancelReceiptPg saved)

theorem alone_of_receipt
    (found : s.cancelReceipts.find? (request.logicalTurnId, request.idempotencyKey) = some row) :
    (cancelLogicalTurn request).alone s [] = (.ok { row.receipt with replayed := true }, s) := by
  simp only [cancelLogicalTurn, Transaction.alone, replay_nil, found, Bool.false_eq_true, if_false]

def duplicateReceipt : CoreError :=
  uniqueViolation "save PostgreSQL cancellation receipt" "logical_brain_turn_cancel_receipts"

theorem alone_of_late_receipt
    (found : s.cancelReceipts.find? (request.logicalTurnId, request.idempotencyKey) = some row)
    (stored : s.loadTurn request.logicalTurnId = some record)
    (terminal : record.phase.isTerminal = true) :
    (cancelLockedTurn request).alone s [] = (.error duplicateReceipt, s) := by
  simp only [cancelLockedTurn, Transaction.alone, replay_nil, stored, terminal, if_true,
    saveCancelReceiptPg, insertRow, found, Option.isSome_some, fail, Bool.false_eq_true, if_false,
    duplicateReceipt]

theorem cancelled_store
    (unused : s.cancelReceipts.find? (request.logicalTurnId, request.idempotencyKey) = none)
    (accepted : s.cancelLogicalTurn request = .ok (s', receipt)) :
    s'.cancelReceipts.find? (request.logicalTurnId, request.idempotencyKey) =
        some (cancelReceiptRow request receipt) ∧
      ∃ record, s'.loadTurn request.logicalTurnId = some record ∧
        record.phase.isTerminal = true := by
  rcases cancelLogicalTurn_ok accepted with ⟨row, found, -, -⟩ | ⟨record, -, stored, ended⟩
  · rw [unused] at found
    cases found
  rcases ended with ⟨terminal, -, saved⟩ | ⟨active, -, s₁, cancelled, saved⟩
  · obtain ⟨-, rfl⟩ := insertCancelReceipt_ok saved
    exact ⟨by simp [cancelReceiptRow, CancelReceiptRow.key], record, stored, terminal⟩
  · obtain ⟨-, rfl⟩ := insertCancelReceipt_ok saved
    obtain ⟨-, -, progress, s₂, s₃, -, final, rfl⟩ := cancelActiveTurn_ok cancelled
    have target : record.logicalTurnId = request.logicalTurnId := Table.key_of_find? stored
    exact ⟨by simp [cancelReceiptRow, CancelReceiptRow.key], cancelledRecord record request.now,
      loadTurn_put (s := s₂) (insertOutbox_turns final) target, rfl⟩

/-! ## Two clients -/

def SerialAt (requests : Bool → LogicalTurnCancelRequest) (db : Clients) : Prop :=
  ∃ client, db.session client = .start (cancelLogicalTurn (requests client)) ∧
    (db.session !client).answer.isSome = true

def Serial (s : Store) (requests : Bool → LogicalTurnCancelRequest) (schedule : List Bool) : Prop :=
  ∃ n, SerialAt requests (stateAt Database.step (Clients.start s requests) schedule n)

section
variable {requests : Bool → LogicalTurnCancelRequest} {id : LogicalTurnId} {key : String}
  {after : Bool → Store} {receipt : Bool → LogicalTurnCancellationReceipt}

/-- Two acceptable cancellations of one turn that share a key which is not in use. -/
structure Contenders (s : Store) (requests : Bool → LogicalTurnCancelRequest) (id : LogicalTurnId)
    (key : String) (after : Bool → Store)
    (receipt : Bool → LogicalTurnCancellationReceipt) : Prop where
  turn : ∀ client, (requests client).logicalTurnId = id
  named : ∀ client, (requests client).idempotencyKey = key
  unused : s.cancelReceipts.find? (id, key) = none
  accepted : ∀ client, s.cancelLogicalTurn (requests client) = .ok (after client, receipt client)

section
variable (contenders : Contenders s requests id key after receipt)
include contenders

theorem Contenders.alone_replayed (winner : Bool) :
    (cancelLogicalTurn (requests !winner)).alone (after winner) [] =
      (.ok { receipt winner with replayed := true }, after winner) := by
  obtain ⟨turn, sameKey, unused, accepted⟩ := contenders
  have stored := (cancelled_store (by rw [turn, sameKey]; exact unused) (accepted winner)).1
  rw [turn, sameKey, ← turn (!winner), ← sameKey (!winner)] at stored
  rw [alone_of_receipt stored]
  rfl

theorem Contenders.alone_refused (winner : Bool) :
    (cancelLockedTurn (requests !winner)).alone (after winner) [] =
      (.error duplicateReceipt, after winner) := by
  obtain ⟨turn, sameKey, unused, accepted⟩ := contenders
  obtain ⟨stored, record, loaded, terminal⟩ :=
    cancelled_store (by rw [turn, sameKey]; exact unused) (accepted winner)
  rw [turn, sameKey, ← turn (!winner), ← sameKey (!winner)] at stored
  rw [turn, ← turn (!winner)] at loaded
  exact alone_of_late_receipt stored loaded terminal

theorem Contenders.alone_locked (client : Bool) :
    (cancelLockedTurn (requests client)).alone s [] = (.ok (receipt client), after client) := by
  have alone := alone_cancelLogicalTurn (contenders.accepted client)
  have unused := contenders.unused
  rw [← contenders.turn client, ← contenders.named client] at unused
  simp only [cancelLogicalTurn, Transaction.alone, replay_nil, unused] at alone
  exact alone

end

inductive Contending (s : Store) (request : LogicalTurnCancelRequest)
    (outcome : CoreResult LogicalTurnCancellationReceipt × Store) :
    Session Store Row (CoreResult LogicalTurnCancellationReceipt) → Prop where
  | looking : Contending s request outcome (.start (cancelLogicalTurn request))
  | waiting : Contending s request outcome (.start (cancelLockedTurn request))
  | holding {session} (holds : Row.turn request.logicalTurnId ∈ session.held)
      (unanswered : session.answer = none) (heading : session.outcome s = outcome) :
      Contending s request outcome session

structure Before (s : Store) (requests : Bool → LogicalTurnCancelRequest) (after : Bool → Store)
    (receipt : Bool → LogicalTurnCancellationReceipt) (db : Clients) : Prop where
  committed : db.committed = s
  clients : ∀ client, Contending s (requests client) (.ok (receipt client), after client)
    (db.session client)
  exclusive : ∀ client row, row ∈ (db.session client).held → (db.session !client).held = []

/-- The winner has committed; the other client is on its way to `answer`, or has it. -/
structure After (after : Bool → Store) (receipt : Bool → LogicalTurnCancellationReceipt)
    (winner : Bool) (answer : CoreResult LogicalTurnCancellationReceipt) (db : Clients) :
    Prop where
  committed : db.committed = after winner
  won : (db.session winner).answer = some (.ok (receipt winner))
  other : (db.session !winner).answer = some answer ∨ ((db.session !winner).answer = none ∧
    (db.session !winner).outcome (after winner) = (answer, after winner))

theorem Contending.unanswered {outcome : CoreResult LogicalTurnCancellationReceipt × Store}
    {session : Session Store Row (CoreResult LogicalTurnCancellationReceipt)}
    (contending : Contending s request outcome session) : session.answer = none := by
  cases contending with
  | looking => rfl
  | waiting => rfl
  | holding _ unanswered => exact unanswered

theorem before_put {session : Session Store Row (CoreResult LogicalTurnCancellationReceipt)}
    (before : Before s requests after receipt db)
    (contending : Contending s (requests client) (.ok (receipt client), after client) session)
    (free : (db.session !client).held = [] ∨ session.held = []) :
    Before s requests after receipt (db.put client session) := by
  refine ⟨before.committed, ?_, ?_⟩
  · intro other
    by_cases same : other = client
    · subst same
      rw [put_self]
      exact contending
    · rw [put_other db session same]
      exact before.clients other
  · intro other row held
    by_cases same : other = client
    · subst same
      rw [put_other db session (by simp)]
      rw [put_self] at held
      rcases free with idle | none
      · exact idle
      · rw [none] at held
        cases held
    · have flipped : client = !other := by cases client <;> cases other <;> simp_all
      subst flipped
      rw [put_other db session same] at held
      rw [put_self]
      rcases free with idle | none
      · rw [Bool.not_not] at idle
        rw [idle] at held
        cases held
      · exact none

theorem step_looking (contenders : Contenders s requests id key after receipt)
    (before : Before s requests after receipt db)
    (looking : db.session client = .start (cancelLogicalTurn (requests client))) :
    Before s requests after receipt (db.step client) := by
  have unused := contenders.unused
  rw [← contenders.turn client, ← contenders.named client] at unused
  have stepped : db.step client = db.put client (.start (cancelLockedTurn (requests client))) := by
    rw [step_query (by rw [looking]; rfl) (by rw [looking]; rfl), looking]
    simp only [Session.start, replay_nil, before.committed, unused]
  rw [stepped]
  exact before_put before .waiting (.inr rfl)

theorem step_waiting (contenders : Contenders s requests id key after receipt)
    (before : Before s requests after receipt db)
    (waiting : db.session client = .start (cancelLockedTurn (requests client))) :
    Before s requests after receipt (db.step client) := by
  rw [step_lock (by rw [waiting]; rfl) (by rw [waiting]; rfl)]
  split
  · next free =>
    refine before_put before (.holding List.mem_cons_self (by rw [waiting]; rfl) ?_) ?_
    · rw [← contenders.alone_locked client, waiting, before.committed]
      rfl
    · left
      -- a client that holds anything holds the turn, and the turn is free
      cases found : (db.session !client).held with
      | nil => rfl
      | cons row rest =>
        have busy := free (!client) (by simp)
        have other := before.clients (!client)
        generalize db.session (!client) = session at other busy found
        cases other with
        | looking => cases found
        | waiting => cases found
        | holding holds =>
          rw [contenders.turn (!client), ← contenders.turn client] at holds
          exact absurd holds busy
  · exact before

/-- What the end of the winner means for the other client: it is answered from the receipt when it
has not looked for one yet, and refused when it has. -/
inductive Settled (requests : Bool → LogicalTurnCancelRequest) (after : Bool → Store)
    (receipt : Bool → LogicalTurnCancellationReceipt) (winner : Bool) (db : Clients) : Prop where
  | replayed (serial : SerialAt requests db)
      (end' : After after receipt winner (.ok { receipt winner with replayed := true }) db)
  | refused (overlap : ¬SerialAt requests db)
      (end' : After after receipt winner (.error duplicateReceipt) db)

theorem step_holding (contenders : Contenders s requests id key after receipt)
    (before : Before s requests after receipt db)
    (holds : Row.turn (requests client).logicalTurnId ∈ (db.session client).held)
    (unanswered : (db.session client).answer = none)
    (heading : (db.session client).outcome s = (.ok (receipt client), after client)) :
    Before s requests after receipt (db.step client) ∨
      Settled requests after receipt client (db.step client) := by
  have idle := before.exclusive client _ holds
  have outcome : (db.session client).outcome db.committed =
      (.ok (receipt client), after client) := by
    rw [before.committed]
    exact heading
  have stepped := step_stepped db client
  generalize db.step client = next at stepped ⊢
  cases stepped with
  | waits => exact .inl before
  | advances unanswered held same =>
    refine .inl (before_put before (.holding (held _ holds) unanswered ?_) (.inl idle))
    rw [before.committed] at same
    exact same.trans heading
  | ends committed answer others =>
    right
    rw [outcome] at committed answer
    have elsewhere := others (!client) (by simp)
    have other := before.clients (!client)
    rw [← elsewhere] at other idle
    generalize seen : next.session (!client) = session at other idle
    cases other with
    | looking =>
      refine .replayed ⟨!client, seen, ?_⟩ ⟨committed, answer, .inr ⟨?_, ?_⟩⟩
      · rw [Bool.not_not, answer]
        rfl
      · rw [seen]
        rfl
      · rw [seen]
        exact contenders.alone_replayed client
    | waiting =>
      refine .refused ?_ ⟨committed, answer, .inr ⟨?_, ?_⟩⟩
      · rintro ⟨other, starts, -⟩
        by_cases same : other = client
        · subst same
          rw [starts] at answer
          cases answer
        · have flipped : other = !client := by cases client <;> cases other <;> simp_all
          subst flipped
          cases congrArg Session.rest (seen.symm.trans starts)
      · rw [seen]
        rfl
      · rw [seen]
        exact contenders.alone_refused client
    | holding busy =>
      rw [idle] at busy
      cases busy

theorem step_before (contenders : Contenders s requests id key after receipt)
    (before : Before s requests after receipt db) (client : Bool) :
    Before s requests after receipt (db.step client) ∨
      Settled requests after receipt client (db.step client) := by
  have standing := before.clients client
  generalize seen : db.session client = session at standing
  cases standing with
  | looking => exact .inl (step_looking contenders before seen)
  | waiting => exact .inl (step_waiting contenders before seen)
  | holding holds unanswered heading =>
    subst seen
    exact step_holding contenders before holds unanswered heading

theorem step_after (ended : After after receipt winner answer db) (client : Bool) :
    After after receipt winner answer (db.step client) := by
  by_cases same : client = winner
  · subst same
    rw [step_answered (by rw [ended.won]; rfl)]
    exact ended
  have flipped : client = !winner := by cases client <;> cases winner <;> simp_all
  subst flipped
  rcases ended.other with answered | ⟨unanswered, outcome⟩
  · rw [step_answered (by rw [answered]; rfl)]
    exact ended
  · rw [← ended.committed] at outcome
    have stepped := step_stepped db (!winner)
    generalize db.step (!winner) = next at stepped ⊢
    cases stepped with
    | waits => exact ended
    | advances open' _ heading =>
      refine ⟨ended.committed, ?_, .inr ?_⟩
      · rw [put_other db _ (Ne.symm same)]
        exact ended.won
      · rw [put_self, ← ended.committed]
        exact ⟨open', heading.trans outcome⟩
    | ends committed given others =>
      rw [outcome] at committed given
      refine ⟨committed.trans ended.committed, ?_, .inl given⟩
      rw [others winner (Ne.symm same)]
      exact ended.won

theorem not_serialAt_of_refused (contenders : Contenders s requests id key after receipt)
    (refused : After after receipt winner (.error duplicateReceipt) db) :
    ¬SerialAt requests db := by
  rintro ⟨client, starts, -⟩
  by_cases same : client = winner
  · subst same
    have won := refused.won
    rw [starts] at won
    cases won
  · have flipped : client = !winner := by cases client <;> cases winner <;> simp_all
    subst flipped
    rcases refused.other with answered | ⟨-, outcome⟩
    · rw [starts] at answered
      cases answered
    · rw [starts] at outcome
      have replayed := contenders.alone_replayed winner
      cases congrArg Prod.fst (outcome.symm.trans replayed)

/-! ## Every schedule -/

theorem serial_append :
    Serial s requests (schedule ++ [client]) ↔ Serial s requests schedule ∨
      SerialAt requests (run Database.step (Clients.start s requests) (schedule ++ [client])) := by
  constructor
  · rintro ⟨n, serial⟩
    by_cases inside : n ≤ schedule.length
    · refine .inl ⟨n, ?_⟩
      rwa [stateAt, List.take_append_of_le_length inside] at serial
    · right
      rwa [stateAt, List.take_of_length_le (by simp; omega)] at serial
  · rintro (⟨n, serial⟩ | serial)
    · by_cases inside : n ≤ schedule.length
      · refine ⟨n, ?_⟩
        rwa [stateAt, List.take_append_of_le_length inside]
      · refine ⟨schedule.length, ?_⟩
        rw [stateAt, List.take_of_length_le (by omega)] at serial
        rwa [stateAt, List.take_append_of_le_length le_rfl, List.take_length]
    · refine ⟨schedule.length + 1, ?_⟩
      rwa [stateAt, List.take_of_length_le (by simp)]

/-- The state of the race after a schedule, with what the order of the two clients has to do with
it. -/
inductive Race (s : Store) (requests : Bool → LogicalTurnCancelRequest) (after : Bool → Store)
    (receipt : Bool → LogicalTurnCancellationReceipt) (schedule : List Bool) : Prop where
  | undecided (overlap : ¬Serial s requests schedule)
      (before : Before s requests after receipt
        (run Database.step (Clients.start s requests) schedule))
  | replayed {winner : Bool} (serial : Serial s requests schedule)
      (ended : After after receipt winner (.ok { receipt winner with replayed := true })
        (run Database.step (Clients.start s requests) schedule))
  | refused {winner : Bool} (overlap : ¬Serial s requests schedule)
      (ended : After after receipt winner (.error duplicateReceipt)
        (run Database.step (Clients.start s requests) schedule))

theorem not_serialAt_of_before (before : Before s requests after receipt db) :
    ¬SerialAt requests db := by
  rintro ⟨client, -, answered⟩
  rw [(before.clients (!client)).unanswered] at answered
  cases answered

theorem before_start : Before s requests after receipt (Clients.start s requests) :=
  ⟨rfl, fun _ => .looking, fun _ _ _ => rfl⟩

theorem race_run (contenders : Contenders s requests id key after receipt)
    (schedule : List Bool) : Race s requests after receipt schedule := by
  induction schedule using List.reverseRecOn with
  | nil =>
    have start : Before s requests after receipt (Clients.start s requests) := before_start
    refine .undecided ?_ start
    rintro ⟨n, serial⟩
    rw [stateAt, List.take_nil] at serial
    exact not_serialAt_of_before start serial
  | append_singleton schedule client ih =>
    have stepped : run Database.step (Clients.start s requests) (schedule ++ [client]) =
        (run Database.step (Clients.start s requests) schedule).step client := by
      rw [run_append]
      rfl
    cases ih with
    | undecided overlap before =>
      rcases step_before contenders before client with still | ⟨serial, ended⟩ |
        ⟨apart, ended⟩
      · rw [← stepped] at still
        refine .undecided ?_ still
        rw [serial_append, not_or]
        exact ⟨overlap, not_serialAt_of_before still⟩
      · rw [← stepped] at serial ended
        exact .replayed (serial_append.mpr (.inr serial)) ended
      · rw [← stepped] at apart ended
        refine .refused ?_ ended
        rw [serial_append, not_or]
        exact ⟨overlap, apart⟩
    | replayed serial ended =>
      exact .replayed (serial_append.mpr (.inl serial)) (stepped ▸ step_after ended client)
    | refused overlap ended =>
      have ended' := stepped ▸ step_after ended client
      refine .refused ?_ ended'
      rw [serial_append, not_or]
      exact ⟨overlap, not_serialAt_of_refused contenders ended'⟩

def Answering (s : Store) (answer : CoreResult LogicalTurnCancellationReceipt)
    (db : Clients) : Prop :=
  db.committed = s ∧ ∀ client, (db.session client).answer = some answer ∨
    ((db.session client).answer = none ∧ (db.session client).outcome s = (answer, s))

theorem step_answering (db : Clients)
    (client : Bool) (answering : Answering s answer db) : Answering s answer (db.step client) := by
  obtain ⟨rfl, standing⟩ := answering
  rcases standing client with answered | ⟨unanswered, outcome⟩
  · rw [step_answered (by rw [answered]; rfl)]
    exact ⟨rfl, standing⟩
  have stepped := step_stepped db client
  generalize db.step client = next at stepped ⊢
  cases stepped with
  | waits => exact ⟨rfl, standing⟩
  | advances open' _ heading =>
    refine ⟨rfl, fun other => ?_⟩
    by_cases same : other = client
    · subst same
      rw [put_self]
      exact .inr ⟨open', heading.trans outcome⟩
    · rw [put_other db _ same]
      exact standing other
  | ends committed given others =>
    rw [outcome] at committed given
    refine ⟨committed, fun other => ?_⟩
    by_cases same : other = client
    · subst same
      exact .inl given
    · rw [others other same]
      exact standing other

theorem run_answering
    (found : ∀ client, s.cancelReceipts.find? ((requests client).logicalTurnId, (requests
      client).idempotencyKey) = some row) (schedule : List Bool) :
    Answering s (.ok { row.receipt with replayed := true })
      (run Database.step (Clients.start s requests) schedule) :=
  run_invariant_all schedule step_answering
    ⟨rfl, fun client => .inr ⟨rfl, alone_of_receipt (found client)⟩⟩

end

def SameReceipt (db : Clients) : Prop :=
  ∃ first second, (db.session false).answer = some (.ok first) ∧
    (db.session true).answer = some (.ok second) ∧
    first = { second with replayed := first.replayed }

def runningStore : Store := run Store.step Store.empty [sampleAdmit "a", sampleClaim "a" 1 0 1]

def cancelTwice : Bool → LogicalTurnCancelRequest := fun _ =>
  ⟨sampleTurn "a", 2, "cancel a", "operator", "stopped", "09:00"⟩

def overlappingSchedule : List Bool :=
  [false, true] ++ List.replicate 12 false ++ [true, true, true]

theorem second_cancellation_refused :
    ((run Database.step (Clients.start runningStore cancelTwice) overlappingSchedule).session
        false).answer.map (fun answer => answer.map LogicalTurnCancellationReceipt.replayed) =
          some (.ok false) ∧
      ((run Database.step (Clients.start runningStore cancelTwice) overlappingSchedule).session
        true).answer.map (fun answer => answer.map LogicalTurnCancellationReceipt.replayed) =
          some (.error duplicateReceipt) := by
  decide +kernel

theorem concurrent_cancellations_agree_iff (s : Store)
    (requests : Bool → LogicalTurnCancelRequest) (id : LogicalTurnId) (key : String)
    (turn : ∀ client, (requests client).logicalTurnId = id)
    (named : ∀ client, (requests client).idempotencyKey = key)
    (acceptable : ∀ client, ∃ result, s.cancelLogicalTurn (requests client) = .ok result)
    (schedule : List Bool)
    (finished : ∀ client, ((run Database.step (Clients.start s requests) schedule).session
      client).answer.isSome = true) :
    (∃ client receipt, s.cancelLogicalTurn (requests client) =
        .ok ((run Database.step (Clients.start s requests) schedule).committed, receipt)) ∧
      (s.cancelReceipts.find? (id, key) = none → ∃ record, (run Database.step
        (Clients.start s requests) schedule).committed.loadTurn id = some record ∧
          record.phase.isTerminal = true) ∧
      (SameReceipt (run Database.step (Clients.start s requests) schedule) ↔
        (s.cancelReceipts.find? (id, key)).isSome = true ∨ Serial s requests schedule) := by
  have ends : ∀ {client s' receipt}, s.cancelLogicalTurn (requests client) = .ok (s', receipt) →
      s.cancelReceipts.find? (id, key) = none →
        ∃ record, s'.loadTurn id = some record ∧ record.phase.isTerminal = true := by
    intro client s' receipt accepted unused
    rw [← turn client]
    exact (cancelled_store (by rw [turn, named, unused]) accepted).2
  cases found : s.cancelReceipts.find? (id, key) with
  | some row =>
    have stored : ∀ client, s.cancelReceipts.find?
        ((requests client).logicalTurnId, (requests client).idempotencyKey) = some row := by
      intro client
      rw [turn, named]
      exact found
    obtain ⟨committed, standing⟩ := run_answering stored schedule
    have answers : ∀ client, ((run Database.step (Clients.start s requests) schedule).session
        client).answer = some (.ok { row.receipt with replayed := true }) := by
      intro client
      refine (standing client).resolve_right fun pending => ?_
      have answered := finished client
      rw [pending.1] at answered
      cases answered
    refine ⟨⟨false, { row.receipt with replayed := true }, ?_⟩, ?_, ?_⟩
    · rw [committed, Store.cancelLogicalTurn, stored false]
    · intro unused
      cases unused
    · exact iff_of_true ⟨_, _, answers false, answers true, rfl⟩ (.inl rfl)
  | none =>
    choose result accepted using acceptable
    have contenders : Contenders s requests id key (fun client => (result client).1)
        (fun client => (result client).2) := ⟨turn, named, found, accepted⟩
    have given : ∀ {winner answer}, After (fun client => (result client).1)
        (fun client => (result client).2) winner answer
          (run Database.step (Clients.start s requests) schedule) →
        ((run Database.step (Clients.start s requests) schedule).session !winner).answer =
          some answer := by
      intro winner answer ended
      refine ended.other.resolve_right fun pending => ?_
      have answered := finished (!winner)
      rw [pending.1] at answered
      cases answered
    cases race_run contenders schedule with
    | undecided _ before =>
      have answered := finished false
      rw [(before.clients false).unanswered] at answered
      cases answered
    | @replayed winner serial ended =>
      rw [ended.committed]
      refine ⟨⟨winner, _, accepted winner⟩, fun _ => ends (accepted winner) found, ?_⟩
      refine iff_of_true ?_ (.inr serial)
      cases winner with
      | false => exact ⟨_, _, ended.won, given ended, rfl⟩
      | true => exact ⟨_, _, given ended, ended.won, rfl⟩
    | @refused winner overlap ended =>
      rw [ended.committed]
      refine ⟨⟨winner, _, accepted winner⟩, fun _ => ends (accepted winner) found, ?_⟩
      refine iff_of_false ?_ (by simp [overlap])
      rintro ⟨first, second, ofFalse, ofTrue, -⟩
      have refused := given ended
      cases winner with
      | false => cases refused.symm.trans ofTrue
      | true => cases refused.symm.trans ofFalse

def serialSchedule : List Bool := List.replicate 13 false ++ [true, true]

theorem concurrent_cancellations_agree_sample :
    SameReceipt (run Database.step (Clients.start runningStore cancelTwice) serialSchedule) := by
  have accepted : ∃ result, runningStore.cancelLogicalTurn (cancelTwice false) = .ok result := by
    cases called : runningStore.cancelLogicalTurn (cancelTwice false) with
    | ok result => exact ⟨result, rfl⟩
    | error failure =>
      have succeeds :
          (runningStore.cancelLogicalTurn (cancelTwice false)).toOption.isSome = true := by
        decide +kernel
      rw [called] at succeeds
      cases succeeds
  exact (concurrent_cancellations_agree_iff runningStore cancelTwice _ _ (fun _ => rfl)
    (fun _ => rfl) (fun _ => accepted) serialSchedule (by decide +kernel)).2.2.mpr
      (.inr ⟨13, true, rfl, by decide +kernel⟩)

end RustyCrew.Proof.Persistence.Postgres

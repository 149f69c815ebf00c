import RustyCrew.Library.Runs

namespace RustyCrew.Library

/-! ## Transactions under READ COMMITTED

A client runs its transaction one statement after another. A statement is given what the database
shows when it starts: the committed rows, changed by what the transaction has written itself. A
statement that locks or writes a row waits while another open transaction holds it. -/

inductive Transaction (σ κ α : Type) where
  | finish (commits : Bool) (answer : α)
  | query (next : σ → Transaction σ κ α)
  | lock (row : κ) (next : σ → Transaction σ κ α)
  | write (row : κ) (edit : σ → σ → σ) (next : σ → Transaction σ κ α)

structure Session (σ κ α : Type) where
  rest : Transaction σ κ α
  edits : List (σ → σ)
  held : List κ
  answer : Option α

structure Database (ι σ κ α : Type) where
  committed : σ
  session : ι → Session σ κ α

section
variable {ι σ κ α : Type}

def Session.start (transaction : Transaction σ κ α) : Session σ κ α := ⟨transaction, [], [], none⟩

def replay (edits : List (σ → σ)) (committed : σ) : σ :=
  edits.foldl (fun s edit => edit s) committed

@[simp] theorem replay_nil (committed : σ) : replay [] committed = committed := rfl

@[simp] theorem replay_cons (edit : σ → σ) (edits : List (σ → σ)) (committed : σ) :
    replay (edit :: edits) committed = replay edits (edit committed) := rfl

@[simp] theorem replay_append (first second : List (σ → σ)) (committed : σ) :
    replay (first ++ second) committed = replay second (replay first committed) :=
  List.foldl_append

/-- The answer and the committed state of a transaction that no other one disturbs. -/
def Transaction.alone (committed : σ) : Transaction σ κ α → List (σ → σ) → α × σ
  | .finish commits answer, edits => (answer, if commits then replay edits committed else committed)
  | .query next, edits => (next (replay edits committed)).alone committed edits
  | .lock _ next, edits => (next (replay edits committed)).alone committed edits
  | .write _ edit next, edits =>
    (next (replay edits committed)).alone committed (edits ++ [edit (replay edits committed)])

def Transaction.map {β : Type} (f : α → β) : Transaction σ κ α → Transaction σ κ β
  | .finish commits answer => .finish commits (f answer)
  | .query next => .query fun shown => (next shown).map f
  | .lock row next => .lock row fun shown => (next shown).map f
  | .write row edit next => .write row edit fun shown => (next shown).map f

theorem Transaction.alone_map {β : Type} (f : α → β) (committed : σ)
    (transaction : Transaction σ κ α) (edits : List (σ → σ)) :
    (transaction.map f).alone committed edits = (transaction.alone committed edits).map f id := by
  induction transaction generalizing edits with
  | finish commits answer => rfl
  | query next ih => exact ih _ edits
  | lock row next ih => exact ih _ edits
  | write row edit next ih => exact ih _ _

def Session.outcome (session : Session σ κ α) (committed : σ) : α × σ :=
  session.rest.alone committed session.edits

namespace Database
variable [DecidableEq ι]

def put (db : Database ι σ κ α) (who : ι) (session : Session σ κ α) : Database ι σ κ α :=
  { db with session := Function.update db.session who session }

@[simp] theorem put_self (db : Database ι σ κ α) (who : ι) (session : Session σ κ α) :
    (db.put who session).session who = session := by
  simp [put]

@[simp] theorem put_other (db : Database ι σ κ α) (session : Session σ κ α)
    (different : other ≠ who) : (db.put who session).session other = db.session other := by
  simp [put, different]

variable [Fintype ι] [DecidableEq κ]

def Free (db : Database ι σ κ α) (who : ι) (row : κ) : Prop :=
  ∀ other, other ≠ who → row ∉ (db.session other).held

instance (db : Database ι σ κ α) (who : ι) (row : κ) : Decidable (db.Free who row) := by
  unfold Free
  infer_instance

/-- One turn of a client: its next statement, or nothing while that statement has to wait. -/
def step (db : Database ι σ κ α) (who : ι) : Database ι σ κ α :=
  let session := db.session who
  let shown := replay session.edits db.committed
  if session.answer.isSome then db
  else
    match session.rest with
    | .finish commits answer =>
      { committed := if commits then shown else db.committed
        session := Function.update db.session who ⟨session.rest, [], [], some answer⟩ }
    | .query next => db.put who { session with rest := next shown }
    | .lock row next =>
      if db.Free who row then
        db.put who { session with rest := next shown, held := row :: session.held }
      else db
    | .write row edit next =>
      if db.Free who row then
        db.put who { session with
          rest := next shown
          edits := session.edits ++ [edit shown]
          held := row :: session.held }
      else db

inductive Stepped (db : Database ι σ κ α) (who : ι) : Database ι σ κ α → Prop where
  | waits : Stepped db who db
  | advances {session : Session σ κ α} (unanswered : session.answer = none)
      (held : ∀ row ∈ (db.session who).held, row ∈ session.held)
      (outcome : session.outcome db.committed = (db.session who).outcome db.committed) :
      Stepped db who (db.put who session)
  | ends {next : Database ι σ κ α}
      (committed : next.committed = ((db.session who).outcome db.committed).2)
      (answer : (next.session who).answer = some ((db.session who).outcome db.committed).1)
      (others : ∀ other, other ≠ who → next.session other = db.session other) :
      Stepped db who next

section
variable {db : Database ι σ κ α} {who : ι}

theorem step_answered (answered : (db.session who).answer.isSome = true) : db.step who = db := by
  simp [step, answered]

section
variable (unanswered : (db.session who).answer = none)
include unanswered

theorem step_query (rest : (db.session who).rest = .query next) :
    db.step who = db.put who { db.session who with
      rest := next (replay (db.session who).edits db.committed) } := by
  simp [step, unanswered, rest]

theorem step_lock (rest : (db.session who).rest = .lock row next) :
    db.step who =
      if db.Free who row then
        db.put who { db.session who with
          rest := next (replay (db.session who).edits db.committed)
          held := row :: (db.session who).held }
      else db := by
  simp [step, unanswered, rest]

theorem step_write {edit : σ → σ → σ} (rest : (db.session who).rest = .write row edit next) :
    db.step who =
      if db.Free who row then
        db.put who { db.session who with
          rest := next (replay (db.session who).edits db.committed)
          edits := (db.session who).edits ++ [edit (replay (db.session who).edits db.committed)]
          held := row :: (db.session who).held }
      else db := by
  simp [step, unanswered, rest]

end

theorem step_finish (unanswered : (db.session who).answer = none)
    (rest : (db.session who).rest = .finish commits answer) :
    db.step who =
      { committed := if commits then replay (db.session who).edits db.committed else db.committed
        session := Function.update db.session who
          ⟨.finish commits answer, [], [], some answer⟩ } := by
  simp [step, unanswered, rest]

theorem step_stepped (db : Database ι σ κ α) (who : ι) : Stepped db who (db.step who) := by
  cases answered : (db.session who).answer with
  | some answer =>
    rw [step_answered (by simp [answered])]
    exact .waits
  | none =>
  cases rest : (db.session who).rest with
  | finish commits answer =>
    have outcome : (db.session who).outcome db.committed =
        (answer, if commits then replay (db.session who).edits db.committed
          else db.committed) := by
      rw [Session.outcome, rest, Transaction.alone]
    rw [step_finish answered rest]
    refine .ends (by rw [outcome]) ?_ fun other different => Function.update_of_ne different ..
    rw [outcome]
    simp
  | query next =>
    rw [step_query answered rest]
    refine .advances answered (fun _ => id) ?_
    simp only [Session.outcome, rest, Transaction.alone]
  | lock row next =>
    rw [step_lock answered rest]
    split
    · refine .advances answered (fun _ held => List.mem_cons_of_mem _ held) ?_
      simp only [Session.outcome, rest, Transaction.alone]
    · exact .waits
  | write row edit next =>
    rw [step_write answered rest]
    split
    · refine .advances answered (fun _ held => List.mem_cons_of_mem _ held) ?_
      simp only [Session.outcome, rest, Transaction.alone]
    · exact .waits

end

end Database

end

end RustyCrew.Library

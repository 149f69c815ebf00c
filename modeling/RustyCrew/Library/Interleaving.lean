import RustyCrew.Library.Effect
import RustyCrew.Library.Runs

namespace RustyCrew.Library

/-! ## Programs that share a state

A program acts on a shared state by one operation after another. Each operation is atomic; between
two of them other programs may act. -/

/-- The operations on a shared state. What lies outside of the state answers through `η`. An
operation that is not ready makes its program wait. -/
structure Interface (σ ε η : Type) where
  Op : Type
  Answer : Op → Type
  ready : Op → σ → Bool
  perform : η → (op : Op) → σ → Except ε (Answer op) × σ

inductive Program {σ ε η : Type} (I : Interface σ ε η) (α : Type) where
  | done (result : Except ε α)
  | op (op : I.Op) (next : Except ε (I.Answer op) → Program I α)

/-- A state and what will be answered from outside, operation by operation. -/
structure Attended (σ η : Type) where
  state : σ
  answers : Nat → η

section
variable {σ ε η α β : Type} {I : Interface σ ε η}

def Attended.after (attended : Attended σ η) (state : σ) : Attended σ η :=
  ⟨state, fun n => attended.answers (n + 1)⟩

@[simp] theorem Attended.state_after (attended : Attended σ η) (state : σ) :
    (attended.after state).state = state := rfl

namespace Program

protected def bind : Program I α → (α → Program I β) → Program I β
  | .done (.ok a), f => f a
  | .done (.error failure), _ => .done (.error failure)
  | .op o next, f => .op o fun answer => (next answer).bind f

instance : Monad (Program I) where
  pure a := .done (.ok a)
  bind := Program.bind

def request (o : I.Op) : Program I (I.Answer o) := .op o .done

def attempt : Program I α → Program I (Except ε α)
  | .done result => .done (.ok result)
  | .op o next => .op o fun answer => (next answer).attempt

def closing (last : I.Op) : Program I α → Program I α
  | .done result => .op last fun _ => .done result
  | .op o next => .op o fun answer => (next answer).closing last

def run : Program I α → Effect (Attended σ η) ε α
  | .done result => Effect.lift result
  | .op o next => fun attended =>
    let (answer, state) := I.perform (attended.answers 0) o attended.state
    (next answer).run (attended.after state)

theorem run_op (o : I.Op) (next : Except ε (I.Answer o) → Program I α) (attended : Attended σ η) :
    (Program.op o next).run attended =
      (next (I.perform (attended.answers 0) o attended.state).1).run
        (attended.after (I.perform (attended.answers 0) o attended.state).2) := rfl

theorem run_bind (p : Program I α) (f : α → Program I β) :
    (p >>= f).run = p.run >>= fun a => (f a).run := by
  funext attended
  induction p generalizing attended with
  | done result =>
    cases result with
    | ok a => exact (Effect.lift_bind rfl).symm
    | error failure => exact (Effect.lift_bind_error rfl).symm
  | op o next ih => exact ih _ _

theorem run_attempt (p : Program I α) (attended : Attended σ η) :
    p.attempt.run attended = (.ok (p.run attended).1, (p.run attended).2) := by
  induction p generalizing attended with
  | done result => rfl
  | op o next ih => exact ih _ _

theorem run_closing (p : Program I α) (last : I.Op) (attended : Attended σ η) :
    (p.closing last).run attended =
      let (result, ended) := p.run attended
      (result, ended.after (I.perform (ended.answers 0) last ended.state).2) := by
  induction p generalizing attended with
  | done result => rfl
  | op o next ih => exact ih _ _

/-! ## Rules for programs that run alone

The assertions are about the shared state; what is answered from outside is arbitrary. -/

/-- From `P`, the program returns with `Q` or fails with `E`. -/
def Ensures (P : σ → Prop) (p : Program I α) (Q : α → σ → Prop) (E : σ → Prop) : Prop :=
  Effect.Meets (fun attended => P attended.state) p.run (fun a attended => Q a attended.state)
    (fun _ attended => E attended.state)

variable {P : σ → Prop} {E : σ → Prop}

theorem ensures_done (post : ∀ a s, result = .ok a → P s → Q a s)
    (fails : ∀ s, P s → E s) : Ensures P (.done result : Program I α) Q E :=
  Effect.meets_lift (fun a _ known pre => post a _ known pre) fun _ _ _ pre => fails _ pre

theorem ensures_pure (post : ∀ s, P s → Q a s) : Ensures P (pure a : Program I α) Q E :=
  Effect.meets_pure fun _ pre => post _ pre

theorem ensures_bind {f : α → Program I β} {R : β → σ → Prop}
    (first : Ensures P p Q E) (next : ∀ a, Ensures (Q a) (f a) R E) : Ensures P (p >>= f) R E := by
  rw [Ensures, run_bind]
  exact Effect.meets_bind first next

theorem ensures_weaken {P' : σ → Prop} {Q' : α → σ → Prop} {E' : σ → Prop} {p : Program I α}
    (strong : Ensures P' p Q' E') (pre : ∀ s, P s → P' s) (post : ∀ a s, Q' a s → Q a s)
    (fails : ∀ s, E' s → E s) : Ensures P p Q E :=
  Effect.meets_weaken strong (fun _ => pre _) (fun _ _ => post _ _) fun _ _ => fails _

theorem ensures_request {Q : I.Answer o → σ → Prop}
    (post : ∀ outside s a, (I.perform outside o s).1 = .ok a → P s → Q a (I.perform outside o s).2)
    (fails : ∀ outside s failure, (I.perform outside o s).1 = .error failure → P s →
      E (I.perform outside o s).2) : Ensures P (request o) Q E := by
  intro attended pre
  have ok := post (attended.answers 0) attended.state
  have error := fails (attended.answers 0) attended.state
  rw [request, run_op]
  cases answer : (I.perform (attended.answers 0) o attended.state).1 with
  | ok a => exact ok a answer pre
  | error failure => exact error failure answer pre

theorem ensures_attempt {p : Program I α} (keeps : Ensures P p (fun _ => P) P) :
    Ensures P p.attempt (fun _ => P) E := by
  intro attended pre
  rw [run_attempt]
  exact Effect.Meets.state keeps pre

/-! ## Loops that a failing item stops -/

def stoppedAt (f : β → α → Program I β) : β → List α → Attended σ η → Option α
  | _, [], _ => none
  | b, a :: rest, attended =>
    match (f b a).run attended with
    | (.ok b', next) => stoppedAt f b' rest next
    | (.error _, _) => some a

theorem run_foldlM_cons (f : β → α → Program I β) (b : β) (a : α) (rest : List α) :
    ((a :: rest).foldlM f b).run = (f b a).run >>= fun b' => (rest.foldlM f b').run := by
  rw [List.foldlM_cons, run_bind]

theorem loop_reaches {f : β → α → Program I β} {Done : List α → σ → Prop}
    {Failed : List α → α → σ → Prop}
    (round : ∀ before b a, Ensures (Done before) (f b a) (fun _ => Done (before ++ [a]))
      (Failed before a))
    (items before : List α) (b : β) (attended : Attended σ η) (start : Done before attended.state) :
    (∃ b', (items.foldlM f b).run attended = (.ok b', ((items.foldlM f b).run attended).2) ∧
        stoppedAt f b items attended = none ∧
        Done (before ++ items) ((items.foldlM f b).run attended).2.state) ∨
      ∃ failure failed front back, (items.foldlM f b).run attended =
            (.error failure, ((items.foldlM f b).run attended).2) ∧
          stoppedAt f b items attended = some failed ∧ items = front ++ failed :: back ∧
          Failed (before ++ front) failed ((items.foldlM f b).run attended).2.state := by
  induction items generalizing before b attended with
  | nil =>
    left
    rw [List.append_nil]
    exact ⟨b, rfl, rfl, start⟩
  | cons a rest ih =>
    have ran := round before b a attended start
    rw [run_foldlM_cons]
    cases outcome : (f b a).run attended with
    | mk result next =>
    rw [outcome] at ran
    cases result with
    | ok b' =>
      have stops : stoppedAt f b (a :: rest) attended = stoppedAt f b' rest next := by
        rw [stoppedAt, outcome]
      rw [Effect.bind_ok outcome, stops]
      rcases ih (before ++ [a]) b' next ran with
        ⟨last, returned, unstopped, done⟩ |
        ⟨failure, failed, front, back, raised, stopped, rfl, reached⟩
      · left
        exact ⟨last, returned, unstopped, by simpa using done⟩
      · right
        exact ⟨failure, failed, a :: front, back, raised, stopped, rfl, by simpa using reached⟩
    | error failure =>
      have stops : stoppedAt f b (a :: rest) attended = some a := by rw [stoppedAt, outcome]
      rw [Effect.bind_error outcome, stops]
      right
      exact ⟨failure, a, [], rest, rfl, rfl, rfl, by simpa using ran⟩

end Program

/-! ## Interleavings -/

structure Pool {σ ε η : Type} (I : Interface σ ε η) (α : Type) where
  shared : σ
  running : List (Program I α)

inductive PoolEvent (ι η : Type) where
  | start (call : ι)
  | advance (thread : Nat) (outside : η)
  | restart

namespace Pool
variable {ι : Type}

def performed (pool : Pool I α) : PoolEvent ι η → Option (η × I.Op)
  | .advance thread outside =>
    match pool.running[thread]? with
    | some (.op o _) => if I.ready o pool.shared then some (outside, o) else none
    | _ => none
  | _ => none

def step (program : ι → Program I α) (reboot : σ → σ) (pool : Pool I α) :
    PoolEvent ι η → Pool I α
  | .start call => { pool with running := pool.running ++ [program call] }
  | .advance thread outside =>
    match pool.running[thread]? with
    | some (.op o next) =>
      if I.ready o pool.shared then
        let (answer, shared) := I.perform outside o pool.shared
        ⟨shared, pool.running.set thread (next answer)⟩
      else pool
    | _ => pool
  | .restart => ⟨reboot pool.shared, []⟩

theorem shared_step (program : ι → Program I α) (reboot : σ → σ) (pool : Pool I α)
    (event : PoolEvent ι η) :
    (pool.step program reboot event).shared = pool.shared ∨
      (pool.step program reboot event).shared = reboot pool.shared ∨
      ∃ outside o, pool.performed event = some (outside, o) ∧
        (pool.step program reboot event).shared = (I.perform outside o pool.shared).2 := by
  cases event with
  | start call => exact .inl rfl
  | restart => exact .inr (.inl rfl)
  | advance thread outside =>
    cases next : pool.running[thread]? with
    | none => simp [step, next]
    | some p =>
    cases p with
    | done result => simp [step, next]
    | op o rest =>
      cases isReady : I.ready o pool.shared with
      | false => simp [step, next, isReady]
      | true =>
        right
        right
        exact ⟨outside, o, by simp [performed, next, isReady], by simp [step, next, isReady]⟩

end Pool

end

end RustyCrew.Library

import Mathlib

namespace RustyCrew.Library

/-- A computation on a state that keeps what it has already done when it fails. -/
def Effect (σ ε α : Type) := σ → Except ε α × σ

namespace Effect

section
variable {σ ε α β : Type}
variable {x : Effect σ ε α} {f : α → Effect σ ε β} {s s' : σ} {a : α} {failure : ε}
  {result : Except ε α}

instance : Monad (Effect σ ε) where
  pure a := fun s => (.ok a, s)
  bind x f := fun s =>
    match x s with
    | (.ok a, s') => f a s'
    | (.error failure, s') => (.error failure, s')

theorem bind_ok (ran : x s = (.ok a, s')) : (x >>= f) s = f a s' := by
  show (match x s with
    | (.ok a, s') => f a s'
    | (.error failure, s') => (.error failure, s')) = f a s'
  rw [ran]

theorem bind_error (ran : x s = (.error failure, s')) : (x >>= f) s = (.error failure, s') := by
  show (match x s with
    | (.ok a, s') => f a s'
    | (.error failure, s') => (.error failure, s')) = (.error failure, s')
  rw [ran]

theorem bind_returns :
    (x >>= f) s = (.ok b, s') ↔ ∃ a middle, x s = (.ok a, middle) ∧ f a middle = (.ok b, s') := by
  cases outcome : x s with
  | mk result middle =>
    cases result with
    | ok a => simp [bind_ok outcome]
    | error failure => simp [bind_error outcome]

theorem bind_pure_eq (x : Effect σ ε α) (g : α → β) (s : σ) :
    (x >>= fun a => pure (g a)) s = ((x s).1.map g, (x s).2) := by
  cases outcome : x s with
  | mk result s' =>
    cases result with
    | ok a => exact bind_ok outcome
    | error failure => exact bind_error outcome

def lift (result : Except ε α) : Effect σ ε α := fun s => (result, s)

theorem lift_bind (known : result = .ok a) : (lift result >>= f) s = f a s := by
  rw [known]
  exact bind_ok rfl

theorem lift_bind_error (known : result = .error failure) :
    (lift result >>= f) s = (.error failure, s) := by
  rw [known]
  exact bind_error rfl

def read (f : σ → α) : Effect σ ε α := fun s => (.ok (f s), s)

theorem read_bind (f : σ → α) (g : α → Effect σ ε β) (s : σ) :
    ((read f : Effect σ ε α) >>= g) s = g (f s) s := rfl

def check (f : σ → Except ε α) : Effect σ ε α := fun s => (f s, s)

def edit (f : σ → σ) : Effect σ ε Unit := fun s => (.ok (), f s)

def transact (f : σ → Except ε (σ × α)) : Effect σ ε α := fun s =>
  match f s with
  | .ok (s', a) => (.ok a, s')
  | .error failure => (.error failure, s)

def attempt (x : Effect σ ε α) : Effect σ ε (Except ε α) := fun s => (.ok (x s).1, (x s).2)

def forEach (f : α → Effect σ ε Unit) : List α → Effect σ ε Unit
  | [] => pure ()
  | a :: rest => do
    f a
    forEach f rest

def gather (f : α → Effect σ ε (Option β)) : List α → Effect σ ε (List β)
  | [] => pure []
  | a :: rest => do
    let found ← f a
    let others ← gather f rest
    pure (found.toList ++ others)

section
variable {f : α → Effect σ ε (Option β)}

theorem gather_returns :
    gather f (a :: rest) s = (.ok found, s') ↔ ∃ one middle, f a s = (.ok one, middle) ∧
      ∃ others, gather f rest middle = (.ok others, s') ∧ found = one.toList ++ others := by
  rw [gather, bind_returns]
  refine exists_congr fun one => exists_congr fun middle => and_congr_right fun _ => ?_
  rw [bind_returns]
  constructor
  · rintro ⟨others, last, ran, ended⟩
    cases ended
    exact ⟨others, ran, rfl⟩
  · rintro ⟨others, ran, rfl⟩
    exact ⟨others, s', ran, rfl⟩

theorem gather_succeeds {R : List α → σ → Prop}
    (step : ∀ a rest s, R (a :: rest) s → ∃ one s', f a s = (.ok one, s') ∧ R rest s')
    (start : R items s) : ∃ found s', gather f items s = (.ok found, s') ∧ R [] s' := by
  induction items generalizing s with
  | nil => exact ⟨[], s, rfl, start⟩
  | cons a rest ih =>
    obtain ⟨one, middle, ran, later⟩ := step a rest s start
    obtain ⟨others, last, gathered, ended⟩ := ih later
    exact ⟨_, last, gather_returns.mpr ⟨one, middle, ran, others, gathered, rfl⟩, ended⟩

end

/-- From `P`, the computation returns with `Q` or fails with `E`. -/
def Meets (P : σ → Prop) (x : Effect σ ε α) (Q : α → σ → Prop) (E : ε → σ → Prop) : Prop :=
  ∀ s, P s →
    match x s with
    | (.ok a, s') => Q a s'
    | (.error failure, s') => E failure s'

variable {P : σ → Prop} {Q : α → σ → Prop} {E : ε → σ → Prop}

theorem meets_pure (post : ∀ s, P s → Q a s) : Meets P (pure a) Q E := post

theorem meets_bind {R : β → σ → Prop} (first : Meets P x Q E) (next : ∀ a, Meets (Q a) (f a) R E) :
    Meets P (x >>= f) R E := by
  intro s pre
  have ran := first s pre
  show match (match x s with
    | (.ok a, s') => f a s'
    | (.error failure, s') => (.error failure, s')) with
    | (.ok b, s') => R b s'
    | (.error failure, s') => E failure s'
  cases outcome : x s with
  | mk result s' =>
    rw [outcome] at ran
    cases result with
    | ok a => exact next a s' ran
    | error failure => exact ran

theorem meets_then {R : β → σ → Prop} (first : Meets P x (fun _ => P) E)
    (next : ∀ a, Meets P (f a) R E) : Meets P (x >>= f) R E :=
  meets_bind first next

theorem meets_weaken {P' : σ → Prop} {Q' : α → σ → Prop} {E' : ε → σ → Prop}
    (strong : Meets P' x Q' E') (pre : ∀ s, P s → P' s) (post : ∀ a s, Q' a s → Q a s)
    (fails : ∀ failure s, E' failure s → E failure s) : Meets P x Q E := by
  intro s holds
  have ran := strong s (pre s holds)
  cases outcome : x s with
  | mk result s' =>
    rw [outcome] at ran
    cases result with
    | ok a => exact post a s' ran
    | error failure => exact fails failure s' ran

theorem meets_lift (post : ∀ a s, result = .ok a → P s → Q a s)
    (fails : ∀ failure s, result = .error failure → P s → E failure s) :
    Meets P (lift result) Q E := by
  intro s pre
  cases result with
  | ok a => exact post a s rfl pre
  | error failure => exact fails failure s rfl pre

theorem meets_read {f : σ → α} (post : ∀ s, P s → Q (f s) s) : Meets P (read f) Q E := post

theorem meets_edit {f : σ → σ} {Q : Unit → σ → Prop} (post : ∀ s, P s → Q () (f s)) :
    Meets P (edit f) Q E := post

theorem meets_transact {f : σ → Except ε (σ × α)}
    (post : ∀ s s' a, f s = .ok (s', a) → P s → Q a s')
    (fails : ∀ s failure, f s = .error failure → P s → E failure s) :
    Meets P (transact f) Q E := by
  intro s pre
  cases outcome : f s with
  | ok result =>
    obtain ⟨s', a⟩ := result
    simp only [transact, outcome]
    exact post s s' a outcome pre
  | error failure =>
    simp only [transact, outcome]
    exact fails s failure outcome pre

theorem meets_forEach {f : α → Effect σ ε Unit}
    (round : ∀ a ∈ items, Meets P (f a) (fun _ => P) E) :
    Meets P (forEach f items) (fun _ => P) E := by
  induction items with
  | nil => exact meets_pure fun _ => id
  | cons a rest ih =>
    refine meets_bind (round a (by simp)) fun _ => ?_
    exact ih fun b member => round b (by simp [member])

theorem meets_gather {f : α → Effect σ ε (Option β)}
    (round : ∀ a ∈ items, Meets P (f a) (fun _ => P) E) :
    Meets P (gather f items) (fun _ => P) E := by
  induction items with
  | nil => exact meets_pure fun _ => id
  | cons a rest ih =>
    refine meets_bind (round a (by simp)) fun _ => ?_
    exact meets_bind (ih fun b member => round b (by simp [member])) fun _ => meets_pure fun _ => id

/-! ## What a computation keeps however it ends -/

def Keeps (P : σ → Prop) (x : Effect σ ε α) : Prop := Meets P x (fun _ => P) (fun _ => P)

theorem meets_state_iff : Meets P x (fun _ => R) (fun _ => R) ↔ ∀ s, P s → R (x s).2 := by
  refine forall₂_congr fun s _ => ?_
  cases x s with
  | mk result s' => cases result <;> rfl

theorem Meets.state (meets : Meets P x (fun _ => R) (fun _ => R)) (pre : P s) : R (x s).2 :=
  meets_state_iff.mp meets s pre

theorem Keeps.state (keeps : Keeps P x) (pre : P s) : P (x s).2 :=
  Meets.state keeps pre

@[grind ←] theorem keeps_pure (a : α) : Keeps P (pure a : Effect σ ε α) := fun _ => id

@[grind ←] theorem keeps_bind (first : Keeps P x) (next : ∀ a, Keeps P (f a)) : Keeps P (x >>= f) :=
  meets_bind first next

@[grind ←] theorem keeps_lift (result : Except ε α) : Keeps P (lift result) :=
  meets_lift (fun _ _ _ => id) fun _ _ _ => id

@[grind ←] theorem keeps_read (f : σ → α) : Keeps P (read f : Effect σ ε α) := fun _ => id

theorem keeps_edit {f : σ → σ} (kept : ∀ s, P s → P (f s)) : Keeps P (edit f : Effect σ ε Unit) :=
  kept

theorem keeps_forEach {f : α → Effect σ ε Unit} (round : ∀ a, Keeps P (f a)) :
    Keeps P (forEach f items) :=
  meets_forEach fun a _ => round a

end

end Effect

end RustyCrew.Library

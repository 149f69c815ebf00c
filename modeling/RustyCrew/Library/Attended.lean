import RustyCrew.Library.Result
import RustyCrew.Library.Interleaving

namespace RustyCrew.Library

/-! ## Computations that are answered from outside -/

namespace Attended

section
variable {σ ε η α β : Type}
variable {statement : σ → Except ε (α × σ)} {a : α} {attended : Attended σ η}
  {x : Effect (Attended σ η) ε α} {f : α → Effect (Attended σ η) ε Unit} {items : List α}

def ask : Effect (Attended σ η) ε η := fun attended =>
  (.ok (attended.answers 0), attended.after attended.state)

def transact (statement : σ → Except ε (α × σ)) : Effect (Attended σ η) ε α := fun attended =>
  match statement attended.state with
  | .ok (a, state) => (.ok a, { attended with state })
  | .error failure => (.error failure, attended)

theorem transact_returns {s s' : Attended σ η} : transact statement s = (.ok a, s') ↔
      ∃ state, statement s.state = .ok (a, state) ∧ s' = { s with state } := by
  unfold transact
  cases statement s.state with
  | ok result => simp [Prod.ext_iff, eq_comm]
  | error failure => simp

/-! ## Rules

The assertions are about the state; what is answered from outside is arbitrary. -/

/-- What is left to answer of `stream`. -/
def Remains (stream : Nat → η) (attended : Attended σ η) : Prop :=
  ∃ k, ∀ n, attended.answers n = stream (n + k)

/-- From `P`, the computation returns with `Q` or fails with `E`. -/
def Upholds (P : σ → Prop) (x : Effect (Attended σ η) ε α) (Q : α → σ → Prop) (E : σ → Prop) :
    Prop :=
  ∀ stream, Effect.Meets (fun attended => Remains stream attended ∧ P attended.state) x
    (fun a attended => Remains stream attended ∧ Q a attended.state)
    (fun _ attended => Remains stream attended ∧ E attended.state)

variable {P : σ → Prop} {Q : α → σ → Prop} {E : σ → Prop}

theorem Remains.after {stream : Nat → η} (remains : Remains stream attended) (s : σ) :
    Remains stream (attended.after s) := by
  obtain ⟨k, rest⟩ := remains
  exact ⟨k + 1, fun n => (rest (n + 1)).trans (by rw [Nat.add_right_comm, Nat.add_assoc])⟩

theorem upholds_pure (post : ∀ s, P s → Q a s) :
    Upholds P (pure a : Effect (Attended σ η) ε α) Q E :=
  fun _ => Effect.meets_pure fun _ pre => ⟨pre.1, post _ pre.2⟩

theorem upholds_lift (post : ∀ a s, result = .ok a → P s → Q a s) (fails : ∀ s, P s → E s) :
    Upholds P (Effect.lift result : Effect (Attended σ η) ε α) Q E :=
  fun _ => Effect.meets_lift (fun a _ known pre => ⟨pre.1, post a _ known pre.2⟩)
    fun _ _ _ pre => ⟨pre.1, fails _ pre.2⟩

theorem upholds_bind {f : α → Effect (Attended σ η) ε β} (first : Upholds P x Q E)
    (next : ∀ a, Upholds (Q a) (f a) R E) : Upholds P (x >>= f) R E :=
  fun stream => Effect.meets_bind (first stream) fun a => next a stream

theorem upholds_then {f : α → Effect (Attended σ η) ε β} (first : Upholds P x (fun _ => P) E)
    (next : ∀ a, Upholds P (f a) R E) : Upholds P (x >>= f) R E :=
  upholds_bind first next

theorem upholds_weaken (strong : Upholds P' x Q' E') (pre : ∀ s, P s → P' s)
    (post : ∀ a s, Q' a s → Q a s) (fails : ∀ s, E' s → E s) : Upholds P x Q E :=
  fun stream => Effect.meets_weaken (strong stream) (fun _ holds => ⟨holds.1, pre _ holds.2⟩)
    (fun _ _ holds => ⟨holds.1, post _ _ holds.2⟩) fun _ _ holds => ⟨holds.1, fails _ holds.2⟩

section

theorem Upholds.starting (strong : Upholds P' x Q E) (pre : ∀ s, P s → P' s) : Upholds P x Q E :=
  upholds_weaken strong pre (fun _ _ => id) fun _ => id

theorem Upholds.returning (strong : Upholds P x Q' E) (post : ∀ a s, Q' a s → Q a s) :
    Upholds P x Q E :=
  upholds_weaken strong (fun _ => id) post fun _ => id

theorem Upholds.failing (strong : Upholds P x Q E') (fails : ∀ s, E' s → E s) : Upholds P x Q E :=
  upholds_weaken strong (fun _ => id) (fun _ _ => id) fails

end

theorem upholds_assume {p : Prop} (given : p → Upholds P x Q E) :
    Upholds (fun s => p ∧ P s) x Q E :=
  fun stream attended pre => given pre.2.1 stream attended ⟨pre.1, pre.2.2⟩

theorem upholds_each (each : ∀ s, P s → Upholds (· = s) x Q E) : Upholds P x Q E :=
  fun stream attended pre => each attended.state pre.2 stream attended ⟨pre.1, rfl⟩

theorem Upholds.returned (upholds : Upholds P x Q E) :
    Upholds P x (fun a s => (∃ asked answered, P asked.state ∧ x asked = (.ok a, answered)) ∧
      Q a s) E := by
  intro stream attended pre
  have ran := upholds stream attended pre
  cases outcome : x attended with
  | mk result next =>
    rw [outcome] at ran
    cases result with
    | ok a => exact ⟨ran.1, ⟨attended, next, pre.2, outcome⟩, ran.2⟩
    | error failure => exact ran

theorem upholds_ask {Q : η → σ → Prop} (post : ∀ answer s, P s → Q answer s) :
    Upholds P (ask : Effect (Attended σ η) ε η) Q E :=
  fun _ _ pre => ⟨pre.1.after _, post _ _ pre.2⟩

theorem upholds_transact (post : ∀ s a s', statement s = .ok (a, s') → P s → Q a s')
    (fails : ∀ s, P s → E s) : Upholds P (transact statement : Effect (Attended σ η) ε α) Q E := by
  intro stream attended pre
  unfold transact
  cases outcome : statement attended.state with
  | ok result => exact ⟨pre.1, post _ result.1 result.2 outcome pre.2⟩
  | error failure => exact ⟨pre.1, fails _ pre.2⟩

theorem upholds_within {τ : Type} {part : σ → τ} {put : σ → τ → σ}
    {statement : τ → Except ε (α × τ)}
    (post : ∀ s a t, statement (part s) = .ok (a, t) → P s → Q a (put s t))
    (fails : ∀ s, P s → E s) :
    Upholds P (transact fun s => do
      let (a, t) ← statement (part s)
      pure (a, put s t) : Effect (Attended σ η) ε α) Q E := by
  refine upholds_transact (fun s a s' ran pre => ?_) fails
  simp only [bind_eq_ok, pure_eq_ok, Prod.exists, Prod.mk.injEq] at ran
  obtain ⟨answer, t, stated, rfl, rfl⟩ := ran
  exact post s answer t stated pre

theorem upholds_forEach (round : ∀ a ∈ items, Upholds P (f a) (fun _ => P) E) :
    Upholds P (Effect.forEach f items) (fun _ => P) E :=
  fun stream => Effect.meets_forEach fun a isItem => round a isItem stream

theorem upholds_forEach_rest {P : List α → σ → Prop}
    (round : ∀ a rest, Upholds (P (a :: rest)) (f a) (fun _ => P rest) E) :
    Upholds (P items) (Effect.forEach f items) (fun _ => P []) E := by
  induction items with
  | nil => exact upholds_pure fun _ => id
  | cons a rest ih => exact upholds_bind (round a rest) fun _ => ih

theorem upholds_gather {f : α → Effect (Attended σ η) ε (Option β)}
    (round : ∀ a ∈ items, Upholds P (f a) (fun _ => P) E) :
    Upholds P (Effect.gather f items) (fun _ => P) E := by
  induction items with
  | nil => exact upholds_pure fun _ => id
  | cons a rest ih =>
    refine upholds_bind (round a (by simp)) fun _ => ?_
    refine upholds_bind (ih fun b isRest => round b (by simp [isRest])) fun _ => ?_
    exact upholds_pure fun _ => id

theorem upholds_gather_none {f : α → Effect (Attended σ η) ε (Option β)} {Passed : α → Prop}
    (round : ∀ a ∈ items, Upholds P (f a) (fun found s => (found = none → Passed a) ∧ P s) E) :
    Upholds P (Effect.gather f items)
      (fun found s => (found = [] → ∀ a ∈ items, Passed a) ∧ P s) E := by
  induction items with
  | nil => exact upholds_pure fun _ pre => ⟨by simp, pre⟩
  | cons a rest ih =>
    refine upholds_bind (round a (by simp)) fun found => upholds_assume fun first => ?_
    refine upholds_bind (ih fun b isRest => round b (by simp [isRest])) fun others =>
      upholds_assume fun later => upholds_pure fun _ pre => ⟨fun none => ?_, pre⟩
    obtain ⟨noneFound, noOthers⟩ := List.append_eq_nil_iff.mp none
    have passed : Passed a := first (by simpa using noneFound)
    simpa [passed] using later noOthers

abbrev Preserves (P : σ → Prop) (x : Effect (Attended σ η) ε α) : Prop :=
  Upholds P x (fun _ => P) P

@[simp, grind ←] theorem preserves_pure : Preserves P (pure a : Effect (Attended σ η) ε α) :=
  upholds_pure fun _ => id

@[simp, grind ←] theorem preserves_lift :
    Preserves P (Effect.lift result : Effect (Attended σ η) ε α) :=
  upholds_lift (fun _ _ _ => id) fun _ => id

@[simp, grind ←] theorem preserves_bind {f : α → Effect (Attended σ η) ε β} (first : Preserves P x)
    (next : ∀ a, Preserves P (f a)) : Preserves P (x >>= f) :=
  upholds_bind first next

@[simp] theorem preserves_ite {c : Prop} [Decidable c]
    (first : c → Preserves P x) (second : ¬c → Preserves P y) :
    Preserves P (if c then x else y) := by
  split
  · next holds => exact first holds
  · next fails => exact second fails

@[simp, grind ←] theorem preserves_forEach (round : ∀ a, Preserves P (f a)) :
    Preserves P (Effect.forEach f items) :=
  upholds_forEach fun a _ => round a

theorem upholds_attempt {R : Except ε α → σ → Prop}
    (upholds : Upholds P x (fun a => R (.ok a)) fun s => ∀ failure, R (.error failure) s) :
    Upholds P x.attempt R E := by
  intro stream attended pre
  have ran := upholds stream attended pre
  unfold Effect.attempt
  cases outcome : x attended with
  | mk result next =>
    rw [outcome] at ran
    cases result with
    | ok a => exact ran
    | error failure => exact ⟨ran.1, ran.2 failure⟩

theorem Upholds.preserves (upholds : Upholds P x (fun _ => P') P') (pre : P attended.state) :
    Remains attended.answers (x attended).2 ∧ P' (x attended).2.state :=
  Effect.Meets.state (upholds attended.answers) ⟨⟨0, fun _ => rfl⟩, pre⟩

/-! ## Answers that are good from some point on -/

def GoodFrom (good : η → Prop) (k : Nat) (attended : Attended σ η) : Prop :=
  ∀ n, k ≤ n → good (attended.answers n)

/-- From `P`, with answers that are good from number `k` on, the computation returns with `Q` and
leaves answers that are good from number `k'` on, or it fails with `E`. -/
def Attends (good : η → Prop) (k : Nat) (P : σ → Prop) (x : Effect (Attended σ η) ε α) (k' : Nat)
    (Q : α → σ → Prop) (E : σ → Prop) : Prop :=
  Effect.Meets (fun attended => GoodFrom good k attended ∧ P attended.state) x
    (fun a attended => GoodFrom good k' attended ∧ Q a attended.state)
    (fun _ attended => E attended.state)

variable {good : η → Prop} {k k' : Nat}

theorem attends_pure (post : ∀ s, P s → Q a s) :
    Attends good k P (pure a : Effect (Attended σ η) ε α) k Q E :=
  Effect.meets_pure fun _ pre => ⟨pre.1, post _ pre.2⟩

theorem attends_lift (post : ∀ a s, result = .ok a → P s → Q a s)
    (fails : ∀ failure s, result = .error failure → P s → E s) :
    Attends good k P (Effect.lift result : Effect (Attended σ η) ε α) k Q E :=
  Effect.meets_lift (fun a _ known pre => ⟨pre.1, post a _ known pre.2⟩)
    fun failure _ known pre => fails failure _ known pre.2

theorem attends_bind {f : α → Effect (Attended σ η) ε β} (first : Attends good k P x k' Q E)
    (next : ∀ a, Attends good k' (Q a) (f a) k'' R E) : Attends good k P (x >>= f) k'' R E :=
  Effect.meets_bind first next

theorem attends_then {f : α → Effect (Attended σ η) ε β}
    (first : Attends good k P x k' (fun _ => P) E)
    (next : ∀ a, Attends good k' P (f a) k'' R E) : Attends good k P (x >>= f) k'' R E :=
  attends_bind first next

theorem attends_weaken (strong : Attends good k P' x k' Q' E') (pre : ∀ s, P s → P' s)
    (post : ∀ a s, Q' a s → Q a s) (fails : ∀ s, E' s → E s) : Attends good k P x k' Q E :=
  Effect.meets_weaken strong (fun _ holds => ⟨holds.1, pre _ holds.2⟩)
    (fun _ _ holds => ⟨holds.1, post _ _ holds.2⟩) fun _ _ => fails _

theorem attends_assume {p : Prop} (given : p → Attends good k P x k' Q E) :
    Attends good k (fun s => p ∧ P s) x k' Q E :=
  fun attended pre => given pre.2.1 attended ⟨pre.1, pre.2.2⟩

theorem attends_exists {γ : Type} {P : γ → σ → Prop} (given : ∀ c, Attends good k (P c) x k' Q E) :
    Attends good k (fun s => ∃ c, P c s) x k' Q E :=
  fun attended pre => given pre.2.choose attended ⟨pre.1, pre.2.choose_spec⟩

theorem attends_later (attends : Attends good k P x k' Q E) (later : k' ≤ k'') :
    Attends good k P x k'' Q E :=
  Effect.meets_weaken attends (fun _ => id)
    (fun _ _ holds => ⟨fun n late => holds.1 n (Nat.le_trans later late), holds.2⟩) fun _ _ => id

theorem attends_false (never : ∀ s, ¬P s) : Attends good k P x k' Q E :=
  fun _ pre => absurd pre.2 (never _)

theorem attends_ask {Q : η → σ → Prop}
    (post : ∀ answer s, (k = 0 → good answer) → P s → Q answer s) :
    Attends good k P (ask : Effect (Attended σ η) ε η) (k - 1) Q E := by
  intro attended pre
  refine ⟨fun n late => pre.1 (n + 1) (by omega), post _ _ (fun atOnce => ?_) pre.2⟩
  exact pre.1 0 (by omega)

theorem attends_transact (post : ∀ s a s', statement s = .ok (a, s') → P s → Q a s')
    (fails : ∀ s failure, statement s = .error failure → P s → E s) :
    Attends good k P (transact statement : Effect (Attended σ η) ε α) k Q E := by
  intro attended pre
  unfold transact
  cases outcome : statement attended.state with
  | ok result => exact ⟨pre.1, post _ result.1 result.2 outcome pre.2⟩
  | error failure => exact fails _ failure outcome pre.2

theorem attends_total {f : σ → α × σ} (post : ∀ s, P s → Q (f s).1 (f s).2) :
    Attends good k P (transact fun s => .ok (f s) : Effect (Attended σ η) ε α) k Q E :=
  fun _ pre => ⟨pre.1, post _ pre.2⟩

theorem attends_forEach (round : ∀ a ∈ items, Attends good k P (f a) k (fun _ => P) E) :
    Attends good k P (Effect.forEach f items) k (fun _ => P) E :=
  Effect.meets_forEach round

end

end Attended

end RustyCrew.Library

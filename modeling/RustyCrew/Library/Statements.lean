import RustyCrew.Library.ReadCommitted
import RustyCrew.Library.Result

namespace RustyCrew.Library

/-! ## Transactions as programs -/

/-- A part of a transaction that answers `Except ε α`: it is given what follows it. -/
def Statement (σ κ ε α β : Type) : Type :=
  (β → Transaction σ κ (Except ε α)) → Transaction σ κ (Except ε α)

namespace Statement

section
variable {σ κ ε α β : Type}

instance : Monad (Statement σ κ ε α) where
  pure b := fun next => next b
  bind x f := fun next => x fun b => f b next

def fail (failure : ε) : Statement σ κ ε α β := fun _ => .finish false (.error failure)

def exit (answer : α) : Statement σ κ ε α β := fun _ => .finish false (.ok answer)

def commit (x : Statement σ κ ε α α) : Transaction σ κ (Except ε α) :=
  x fun answer => .finish true (.ok answer)

def ofExcept : Except ε β → Statement σ κ ε α β
  | .ok b => pure b
  | .error failure => fail failure

def select (f : σ → β) : Statement σ κ ε α β := fun next => .query fun shown => next (f shown)

def selectForUpdate (row : κ) (f : σ → β) : Statement σ κ ε α β := fun next =>
  .lock row fun shown => next (f shown)

def required (x : Statement σ κ ε α (Option β)) (failure : ε) : Statement σ κ ε α β := do
  let found ← x
  ofExcept (orFail found failure)

def selectAllForUpdate (f : σ → List β) (row : β → κ) : Statement σ κ ε α (List β) := fun next =>
  .query fun shown => (f shown).foldr (fun b rest => .lock (row b) fun _ => rest) (next (f shown))

def execute (row : κ) (refusal : σ → Option ε) (edit : σ → σ) : Statement σ κ ε α Unit :=
  fun next =>
    .write row (fun shown s => if (refusal shown).isSome then s else edit s) fun shown =>
      match refusal shown with
      | some failure => .finish false (.error failure)
      | none => next ()

end

/-! ## A transaction that runs alone, against a function

What a transaction answers and leaves is compared with what a function on states of another kind
gives. -/

structure Comparison (τ σ ε : Type) where
  states : τ → σ → Prop
  errors : ε → ε → Prop

section
variable {τ σ κ ε α β γ δ ρ ζ : Type} (C : Comparison τ σ ε)

/-- A transaction that began on `start` and the function end alike. -/
inductive Agrees (start : σ) (P : δ → α → Prop) :
    Except ε α × σ → Except ε (τ × δ) → Prop where
  | ok {t s d a} (states : C.states t s) (answers : P d a) : Agrees start P (.ok a, s) (.ok (t, d))
  | error {failure raised} (errors : C.errors failure raised) :
      Agrees start P (.error raised, start) (.error failure)

/-- From `t` on, whatever follows, the statement leads to where `result` leads. -/
structure Simulates (t : τ) (x : Statement σ κ ε α β) (result : Except ε ρ)
    (Post : ρ → σ → β → Prop) : Prop where
  leads : ∀ {δ : Type} {P : δ → α → Prop} {next start edits} {g : ρ → Except ε (τ × δ)},
    C.states t (replay edits start) →
    (∀ edits' r b, result = .ok r → Post r (replay edits' start) b →
      Agrees C start P ((next b).alone start edits') (g r)) →
    Agrees C start P ((x next).alone start edits) (result >>= g)

/-- The statement changes the database as `f` does, and their answers are related. -/
def Performs (x : Statement σ κ ε α β) (f : τ → Except ε (τ × γ)) (P : γ → β → Prop) : Prop :=
  ∀ t, Simulates C t x (f t) fun r s b => C.states r.1 s ∧ P r.2 b

def Writes (x : Statement σ κ ε α Unit) (f : τ → Except ε τ) : Prop :=
  ∀ t, Simulates C t x (f t) fun t s _ => C.states t s

/-- The statement sees what `f` sees and writes nothing. -/
structure Reads (x : Statement σ κ ε α β) (f : τ → Except ε γ) (P : γ → β → Prop) : Prop where
  leads : ∀ {δ : Type} {Q : δ → α → Prop} {next start edits t} {g : γ → Except ε (τ × δ)},
    C.states t (replay edits start) →
    (∀ c b, f t = .ok c → P c b → Agrees C start Q ((next b).alone start edits) (g c)) →
    Agrees C start Q ((x next).alone start edits) (f t >>= g)

/-- On a database like `t`, the whole transaction ends like `result`. -/
def Answers (t : τ) (x : Statement σ κ ε α α) (result : Except ε (τ × δ)) (P : δ → α → Prop) :
    Prop :=
  ∀ s, C.states t s → Agrees C s P ((commit x).alone s []) result

variable {C}
variable {f : τ → γ} {P : γ → β → Prop} {t : τ} {failure : ε} {x : Statement σ κ ε α δ}
  {y : δ → Statement σ κ ε α β}

/-! ### Statements that look -/

theorem reads_ofExcept (refl : ∀ failure, C.errors failure failure) (result : Except ε β) :
    Reads C (ofExcept result : Statement σ κ ε α β) (fun _ => result) Eq := by
  refine ⟨fun {δ Q next start edits t g} states rest => ?_⟩
  cases result with
  | ok b => exact rest b b rfl rfl
  | error failure => exact .error (refl failure)

theorem reads_select (alike : ∀ t s, C.states t s → P (f t) (f' s)) :
    Reads C (select f' : Statement σ κ ε α β) (fun t => .ok (f t)) P := by
  refine ⟨fun {δ Q next start edits t g} states rest => ?_⟩
  exact rest _ _ rfl (alike _ _ states)

theorem reads_selectForUpdate (alike : ∀ t s, C.states t s → P (f t) (f' s)) :
    Reads C (selectForUpdate row f' : Statement σ κ ε α β) (fun t => .ok (f t)) P := by
  refine ⟨fun {δ Q next start edits t g} states rest => ?_⟩
  exact rest _ _ rfl (alike _ _ states)

theorem alone_locks (rows : List β) (row : β → κ) (rest : Transaction σ κ α) (s : σ)
    (edits : List (σ → σ)) :
    (rows.foldr (fun b rest => .lock (row b) fun _ => rest) rest).alone s edits =
      rest.alone s edits := by
  induction rows with
  | nil => rfl
  | cons b rows ih => exact ih

theorem reads_selectAllForUpdate {row : β → κ} {f : τ → List γ} {f' : σ → List β}
    {P : List γ → List β → Prop} (alike : ∀ t s, C.states t s → P (f t) (f' s)) :
    Reads C (selectAllForUpdate f' row : Statement σ κ ε α (List β)) (fun t => .ok (f t)) P := by
  refine ⟨fun {δ Q next start edits t g} states rest => ?_⟩
  have agrees := rest _ _ rfl (alike _ _ states)
  rw [← alone_locks (f' (replay edits start)) row] at agrees
  exact agrees

theorem reads_required (refl : ∀ failure, C.errors failure failure)
    {x : Statement σ κ ε α (Option β)} {f : τ → Option β} (failure : ε)
    (look : Reads C x (fun t => .ok (f t)) Eq) :
    Reads C (x.required failure) (fun t => orFail (f t) failure) Eq := by
  refine ⟨fun {δ Q next start edits t g} states rest => ?_⟩
  have looked : Agrees C start Q ((x.required failure next).alone start edits)
      (Except.ok (f t) >>= fun found => orFail found failure >>= g) := by
    refine look.leads states ?_
    rintro found _ seen rfl
    cases seen
    exact (reads_ofExcept refl (orFail (f t) failure)).leads states rest
  exact looked

/-! ### Statements that write -/

theorem simulates_execute (accepts : ∀ s, C.states t s → refusal s = none ∧ C.states t' (edit s)) :
    Simulates C t (execute row refusal edit : Statement σ κ ε α Unit) (.ok t')
      fun t s _ => C.states t s := by
  refine ⟨fun {δ P next start edits g} states rest => ?_⟩
  obtain ⟨allowed, states'⟩ := accepts _ states
  have written : replay (edits ++ [fun s =>
      if (refusal (replay edits start)).isSome then s else edit s]) start =
        edit (replay edits start) := by
    simp [allowed]
  have agrees := rest _ t' () rfl (written ▸ states')
  rw [allowed] at agrees
  simp only [execute, Transaction.alone, allowed]
  exact agrees

theorem simulates_refused
    (refuses : ∀ s, C.states t s → ∃ raised, refusal s = some raised ∧ C.errors failure raised) :
    Simulates C t (execute row refusal edit : Statement σ κ ε α Unit) (.error failure)
      fun t s _ => C.states t s := by
  refine ⟨fun {δ P next start edits g} states rest => ?_⟩
  obtain ⟨raised, refused, errors⟩ := refuses _ states
  simp only [execute, Transaction.alone, refused]
  exact .error errors

section
variable {t : τ} {Post : ρ → σ → β → Prop}

theorem simulates_pure (post : ∀ s, C.states t s → Post r s b) :
    Simulates C t (pure b : Statement σ κ ε α β) (.ok r) Post := by
  refine ⟨fun {δ P next start edits g} states rest => ?_⟩
  exact rest edits r b rfl (post _ states)

theorem simulates_return : Simulates C t (pure b : Statement σ κ ε α β) (.ok (t, b))
    fun r s b => C.states r.1 s ∧ r.2 = b :=
  simulates_pure fun _ states => ⟨states, rfl⟩

theorem simulates_fail (errors : C.errors failure raised) :
    Simulates C t (fail raised : Statement σ κ ε α β) (.error failure) Post := by
  refine ⟨fun {δ P next start edits g} states rest => ?_⟩
  exact .error errors

theorem simulates_look {f : τ → Except ε δ} {g : δ → Except ε ρ} (first : Reads C x f Eq)
    (second : ∀ d, Simulates C t (y d) (g d) Post) : Simulates C t (x >>= y) (f t >>= g) Post := by
  refine ⟨fun {η Q next start edits h} states rest => ?_⟩
  rw [bind_assoc]
  refine first.leads states fun c d seen same => ?_
  cases same
  refine (second c).leads states fun edits' r b did => ?_
  exact rest edits' r b (by rw [seen]; exact did)

theorem simulates_see {x : Statement σ κ ε α γ} {y : γ → Statement σ κ ε α β}
    (first : Reads C x (fun t => .ok (f t)) Eq) (second : Simulates C t (y (f t)) result Post) :
    Simulates C t (x >>= y) result Post := by
  refine ⟨fun {η Q next start edits h} states rest => ?_⟩
  have led : Agrees C start Q (((x >>= y) next).alone start edits)
      (Except.ok (f t) >>= fun _ => result >>= h) := by
    refine first.leads states ?_
    rintro c _ seen rfl
    cases seen
    exact second.leads states rest
  exact led

theorem simulates_write {x : Statement σ κ ε α Unit} {y : Statement σ κ ε α β} {f : τ → Except ε τ}
    {g : τ → Except ε ρ} (first : Writes C x f) (second : ∀ t', Simulates C t' y (g t') Post) :
    Simulates C t (x >>= fun _ => y) (f t >>= g) Post := by
  refine ⟨fun {η Q next start edits h} states rest => ?_⟩
  rw [bind_assoc]
  refine (first t).leads states fun edits' t' _ wrote states' => ?_
  refine (second t').leads states' fun edits'' r b did => ?_
  exact rest edits'' r b (by rw [wrote]; exact did)

theorem simulates_set {x : Statement σ κ ε α Unit} {y : Statement σ κ ε α β} {edit : τ → τ}
    (first : Writes C x fun t => .ok (edit t)) (second : Simulates C (edit t) y result Post) :
    Simulates C t (x >>= fun _ => y) result Post := by
  refine ⟨fun {η Q next start edits h} states rest => ?_⟩
  have led : Agrees C start Q (((x >>= fun _ => y) next).alone start edits)
      (Except.ok (edit t) >>= fun _ => result >>= h) := by
    refine (first t).leads states fun edits' t' _ wrote states' => ?_
    cases wrote
    exact second.leads states' rest
  exact led

theorem simulates_bind {f : τ → Except ε (τ × γ)} {g : τ × γ → Except ε ρ} {P : γ → δ → Prop}
    (first : Performs C x f P) (second : ∀ t' c d, P c d → Simulates C t' (y d) (g (t', c)) Post) :
    Simulates C t (x >>= y) (f t >>= g) Post := by
  refine ⟨fun {η Q next start edits h} states rest => ?_⟩
  rw [bind_assoc]
  refine (first t).leads states fun edits' r d did ⟨states', answers⟩ => ?_
  refine (second r.1 r.2 d answers).leads states' fun edits'' r' b next => ?_
  exact rest edits'' r' b (by rw [did]; exact next)

end

theorem writes_forM {ι : Type} {x : ι → Statement σ κ ε α Unit} {f : τ → ι → Except ε τ}
    (each : ∀ i, Writes C (x i) fun t => f t i) (items : List ι) :
    Writes C (items.forM x) fun t => items.foldlM f t := by
  induction items with
  | nil => exact fun t => simulates_pure fun _ => id
  | cons i items ih =>
    intro t
    simp only [List.foldlM_cons]
    exact simulates_write (each i) ih

theorem performs_foldlM {ι : Type} {x : γ → ι → Statement σ κ ε α γ}
    {f : τ × γ → ι → Except ε (τ × γ)} (each : ∀ c i, Performs C (x c i) (fun t => f (t, c) i) Eq)
    (items : List ι) (c : γ) :
    Performs C (items.foldlM x c) (fun t => items.foldlM f (t, c)) Eq := by
  induction items generalizing c with
  | nil => exact fun t => simulates_pure fun _ states => ⟨states, rfl⟩
  | cons i items ih =>
    intro t
    simp only [List.foldlM_cons]
    refine simulates_bind (each c i) ?_
    rintro t' c' _ rfl
    exact ih c' t'

/-! ### Whole transactions -/

section
variable {t : τ} {P : δ → α → Prop}

theorem answers_simulates {x : Statement σ κ ε α α} {result : Except ε (τ × δ)}
    (simulates : Simulates C t x result fun r s b => C.states r.1 s ∧ P r.2 b) :
    Answers C t x result P := by
  intro s states
  have agrees : Agrees C s P ((commit x).alone s []) (result >>= pure) :=
    simulates.leads states fun edits' r b _ ⟨states', answers⟩ => .ok states' answers
  rwa [bind_pure] at agrees

theorem answers_writes {x : Statement σ κ ε Unit Unit} {f : τ → Except ε τ} {t : τ}
    (writes : Writes C x f) : Answers C t x (f t >>= fun t' => .ok (t', ())) Eq := by
  intro s states
  exact (writes t).leads states fun edits' t' b _ states' => .ok states' rfl

theorem answers_exit (answers : P d a) :
    Answers C t (exit a : Statement σ κ ε α α) (.ok (t, d)) P :=
  fun _ states => .ok states answers

theorem answers_fail (errors : C.errors failure raised) :
    Answers C t (fail raised : Statement σ κ ε α α) (.error failure) P :=
  fun _ _ => .error errors

theorem answers_look {x : Statement σ κ ε α γ} {y : γ → Statement σ κ ε α α} {f : τ → Except ε γ}
    {g : γ → Except ε (τ × δ)} (first : Reads C x f Eq) (second : ∀ c, Answers C t (y c) (g c) P) :
    Answers C t (x >>= y) (f t >>= g) P := by
  intro s states
  refine first.leads states fun c b seen same => ?_
  cases same
  exact second c s states

theorem answers_see {x : Statement σ κ ε α γ} {y : γ → Statement σ κ ε α α}
    {result : Except ε (τ × δ)} (first : Reads C x (fun t => .ok (f t)) Eq)
    (second : Answers C t (y (f t)) result P) : Answers C t (x >>= y) result P := by
  intro s states
  have led : Agrees C s P ((commit (x >>= y)).alone s [])
      (Except.ok (f t) >>= fun _ => result) := by
    refine first.leads states ?_
    rintro c _ seen rfl
    cases seen
    exact second s states
  exact led

end

end

end Statement

end RustyCrew.Library

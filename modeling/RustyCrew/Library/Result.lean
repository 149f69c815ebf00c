import Mathlib

namespace RustyCrew.Library

section
variable {ε α β : Type}

def rejectIf (bad : Prop) [Decidable bad] (failure : ε) : Except ε Unit :=
  if bad then .error failure else .ok ()

def orFail (value : Option α) (failure : ε) : Except ε α :=
  match value with
  | some a => .ok a
  | none => .error failure

def orFailWith (value : Except α β) (failure : α → ε) : Except ε β :=
  match value with
  | .ok b => .ok b
  | .error a => .error (failure a)

@[simp] theorem rejectIf_eq_ok (bad : Prop) [Decidable bad] (failure : ε) (u : Unit) :
    rejectIf bad failure = .ok u ↔ ¬bad := by
  unfold rejectIf
  split <;> simp_all

@[simp] theorem orFail_eq_ok (value : Option α) (failure : ε) (a : α) :
    orFail value failure = .ok a ↔ value = some a := by
  cases value <;> simp [orFail]

@[simp] theorem bind_eq_ok (x : Except ε α) (f : α → Except ε β) (b : β) :
    (x >>= f) = .ok b ↔ ∃ a, x = .ok a ∧ f a = .ok b := by
  cases x <;> simp [bind, Except.bind]

@[simp] theorem pure_eq_ok (a b : α) : (pure a : Except ε α) = .ok b ↔ a = b := by
  simp [pure, Except.pure]

theorem bind_pair_ok {σ : Type} {x : Except ε (σ × α)} {f : α → β} {s : σ} {b : β}
    (answered : (x >>= fun result => .ok (result.1, f result.2)) = .ok (s, b)) :
    ∃ a, x = .ok (s, a) ∧ b = f a := by
  simp only [bind_eq_ok, Except.ok.injEq, Prod.mk.injEq] at answered
  obtain ⟨⟨_, a⟩, called, rfl, rfl⟩ := answered
  exact ⟨a, called, rfl⟩

@[simp] theorem ok_bind (a : α) (f : α → Except ε β) : (Except.ok a >>= f) = f a := rfl

@[simp] theorem error_bind (failure : ε) (f : α → Except ε β) :
    (Except.error failure >>= f) = .error failure := rfl

theorem foldlM_nil (f : α → β → Except ε α) (a : α) : [].foldlM f a = .ok a := rfl

theorem foldlM_invariant {f : α → β → Except ε α} {xs : List β} (Inv : List β → α → Prop)
    (folded : xs.foldlM f a = .ok b) (start : Inv xs a)
    (keeps : ∀ x rest a a', Inv (x :: rest) a → f a x = .ok a' → Inv rest a') : Inv [] b := by
  induction xs generalizing a with
  | nil =>
    rw [foldlM_nil, Except.ok.injEq] at folded
    exact folded ▸ start
  | cons x xs ih =>
    rw [List.foldlM_cons, bind_eq_ok] at folded
    obtain ⟨a', step, rest⟩ := folded
    exact ih rest (keeps x xs a a' start step)

end

end RustyCrew.Library

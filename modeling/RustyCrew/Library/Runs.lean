import Mathlib

namespace RustyCrew.Library

section
variable {σ ι : Type}

def run (step : σ → ι → σ) (s : σ) (inputs : List ι) : σ := inputs.foldl step s

/-- Every step of the run meets `Ok` in the state it starts from. -/
def Along (step : σ → ι → σ) (Ok : σ → ι → Prop) : σ → List ι → Prop
  | _, [] => True
  | s, i :: rest => Ok s i ∧ Along step Ok (step s i) rest

instance decidableAlong (step : σ → ι → σ) (Ok : σ → ι → Prop) [∀ s i, Decidable (Ok s i)] :
    ∀ s inputs, Decidable (Along step Ok s inputs)
  | _, [] => isTrue trivial
  | s, i :: rest => @instDecidableAnd _ _ _ (decidableAlong step Ok (step s i) rest)

variable {step : σ → ι → σ} {Inv : σ → Prop} {s : σ} {inputs : List ι} {n : Nat} {i : ι}

@[simp] theorem run_nil (s : σ) : run step s [] = s := rfl

@[simp] theorem run_cons (s : σ) (i : ι) (rest : List ι) :
    run step s (i :: rest) = run step (step s i) rest := rfl

@[simp] theorem run_append (s : σ) (xs ys : List ι) :
    run step s (xs ++ ys) = run step (run step s xs) ys := by
  simp [run, List.foldl_append]

theorem along_append :
    Along step Ok s (xs ++ ys) ↔ Along step Ok s xs ∧ Along step Ok (run step s xs) ys := by
  induction xs generalizing s with
  | nil => simp [Along]
  | cons x xs ih => simp [Along, ih, and_assoc]

theorem along_mono (weaker : ∀ s i, Ok s i → Ok' s i) (along : Along step Ok s inputs) :
    Along step Ok' s inputs := by
  induction inputs generalizing s with
  | nil => trivial
  | cons i rest ih => exact ⟨weaker s i along.1, ih along.2⟩

theorem along_takeWhile (test : ι → Bool)
    (along : Along step Ok s inputs) : Along step Ok s (inputs.takeWhile test) := by
  rw [← List.takeWhile_append_dropWhile (p := test) (l := inputs)] at along
  exact (along_append.mp along).1

theorem along_of_forall (Allowed : ι → Prop)
    (allowed : ∀ i ∈ inputs, Allowed i) : Along step (fun _ i => Allowed i) s inputs := by
  induction inputs generalizing s with
  | nil => trivial
  | cons i rest ih => exact ⟨allowed i (by simp), ih fun j member => allowed j (by simp [member])⟩

theorem run_invariant (keeps : ∀ s i, Inv s → Ok s i → Inv (step s i)) (start : Inv s)
    (along : Along step Ok s inputs) : Inv (run step s inputs) := by
  induction inputs generalizing s with
  | nil => exact start
  | cons i rest ih => exact ih (keeps s i start along.1) along.2

theorem run_invariant_all (inputs : List ι) (keeps : ∀ s i, Inv s → Inv (step s i))
    (start : Inv s) : Inv (run step s inputs) := by
  induction inputs generalizing s with
  | nil => exact start
  | cons i rest ih => exact ih (keeps s i start)

def outcomes {α : Type} (serve : σ → ι → α × σ) : σ → List ι → List (α × σ)
  | _, [] => []
  | s, i :: rest => serve s i :: outcomes serve (serve s i).2 rest

/-! ## The states along a run -/

def stateAt (step : σ → ι → σ) (s : σ) (inputs : List ι) (n : Nat) : σ := run step s (inputs.take n)

@[simp] theorem stateAt_zero (s : σ) (inputs : List ι) : stateAt step s inputs 0 = s := by
  simp [stateAt]

theorem stateAt_succ (position : inputs[n]? = some i) :
    stateAt step s inputs (n + 1) = step (stateAt step s inputs n) i := by
  rw [stateAt, List.take_add_one, position, Option.toList_some, run_append]
  rfl

theorem stateAt_succ_of_end (position : inputs[n]? = none) :
    stateAt step s inputs (n + 1) = stateAt step s inputs n := by
  rw [stateAt, List.take_add_one, position, Option.toList_none, List.append_nil, stateAt]

theorem along_at (along : Along step Ok s inputs)
    (position : inputs[n]? = some i) : Ok (stateAt step s inputs n) i := by
  induction inputs generalizing s n with
  | nil => simp at position
  | cons j rest ih =>
    cases n with
    | zero =>
      cases position
      exact along.1
    | succ n => exact ih along.2 position

theorem stateAt_relates {R : σ → σ → Prop}
    (refl : ∀ s, R s s) (trans : ∀ a b c, R a b → R b c → R a c)
    (each : ∀ k i, inputs[k]? = some i →
      R (stateAt step s inputs k) (step (stateAt step s inputs k) i)) (order : n ≤ m) :
    R (stateAt step s inputs n) (stateAt step s inputs m) := by
  induction order with
  | refl => exact refl _
  | @step m _ ih =>
    cases position : inputs[m]? with
    | none =>
      rw [stateAt_succ_of_end position]
      exact ih
    | some i =>
      rw [stateAt_succ position]
      exact trans _ _ _ ih (each m i position)

end

/-! ## Histories -/

inductive History {σ ε : Type} (step : σ → ε → σ → Prop) (s : σ) : List ε → σ → Prop
  | nil : History step s [] s
  | snoc {events : List ε} {event : ε} {t u : σ} :
      History step s events t → step t event u → History step s (events ++ [event]) u

section
variable {σ ε : Type} {events : List ε}

theorem History.invariant {Inv : σ → Prop} (history : History step s events t)
    (keeps : ∀ s event t, Inv s → step s event t → Inv t) (start : Inv s) : Inv t := by
  induction history with
  | nil => exact start
  | snoc _ happens ih => exact keeps _ _ _ ih happens

end

end RustyCrew.Library

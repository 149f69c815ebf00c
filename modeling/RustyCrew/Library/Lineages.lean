import Mathlib

namespace RustyCrew.Library

open Relation

section
variable {α : Type} {R : α → α → Prop} {p b x y : α}

def Acyclic (R : α → α → Prop) : Prop := ∀ x, ¬TransGen R x x

def AddEdge (R : α → α → Prop) (p b x y : α) : Prop := R x y ∨ x = p ∧ y = b

theorem reflTransGen_addEdge (path : ReflTransGen (AddEdge R p b) x y) :
    ReflTransGen R x y ∨ ReflTransGen R x p ∧ ReflTransGen R b y := by
  induction path with
  | refl => exact .inl .refl
  | tail _ edge ih =>
    obtain old | ⟨rfl, rfl⟩ := edge
    · obtain before | ⟨before, after⟩ := ih
      · exact .inl (before.tail old)
      · exact .inr ⟨before, after.tail old⟩
    · obtain before | ⟨before, -⟩ := ih
      · exact .inr ⟨before, .refl⟩
      · exact .inr ⟨before, .refl⟩

theorem reflTransGen_of_addEdge (path : ReflTransGen R x y) :
    ReflTransGen (AddEdge R p b) x y := by
  induction path with
  | refl => exact .refl
  | tail _ edge ih => exact ih.tail (.inl edge)

theorem acyclic_addEdge : Acyclic (AddEdge R p b) ↔ Acyclic R ∧ ¬ReflTransGen R b p := by
  constructor
  · intro acyclic
    constructor
    · intro x cycle
      obtain ⟨z, path, edge⟩ := TransGen.tail'_iff.mp cycle
      exact acyclic x (.tail' (reflTransGen_of_addEdge path) (.inl edge))
    · intro back
      exact acyclic b (.tail' (reflTransGen_of_addEdge back) (.inr ⟨rfl, rfl⟩))
  · intro ⟨acyclic, forward⟩ x cycle
    obtain ⟨z, path, edge⟩ := TransGen.tail'_iff.mp cycle
    obtain old | ⟨rfl, rfl⟩ := edge
    · obtain before | ⟨before, after⟩ := reflTransGen_addEdge path
      · exact acyclic x (.tail' before old)
      · exact forward ((after.tail old).trans before)
    · obtain before | ⟨before, -⟩ := reflTransGen_addEdge path <;> exact forward before

end

section
variable {α : Type} {next : α → Option α} {x y : α}

def Leads (next : α → Option α) (x y : α) : Prop := next x = some y

theorem cycle_of_reachable (cycle : TransGen (Leads next) x x)
    (path : ReflTransGen (Leads next) x y) : TransGen (Leads next) y y := by
  induction path with
  | refl => exact cycle
  | tail _ edge ih =>
    obtain ⟨z, first, back⟩ := TransGen.head'_iff.mp ih
    obtain rfl : z = _ := Option.some.inj (first.symm.trans edge)
    exact .tail' back edge

/-- In a list closed under `next`, every chain ends exactly when no chain returns. -/
theorem ends_iff_acyclic {xs : List α} (closed : ∀ x ∈ xs, ∀ y, next x = some y → y ∈ xs) :
    (∀ x ∈ xs, ∃ y ∈ xs, ReflTransGen (Leads next) x y ∧ next y = none) ↔
      ∀ x ∈ xs, ¬TransGen (Leads next) x x := by
  constructor
  · intro ends x member cycle
    obtain ⟨y, -, path, last⟩ := ends x member
    obtain ⟨z, first, -⟩ := TransGen.head'_iff.mp (cycle_of_reachable cycle path)
    simp [Leads, last] at first
  · intro acyclic
    -- on the list, later-in-the-chain is a strict order, and the list is finite
    let later (x y : {x // x ∈ xs}) : Prop := TransGen (Leads next) y x
    have order : IsStrictOrder _ later :=
      { irrefl x := acyclic x x.2, trans _ _ _ xy yz := yz.trans xy }
    have finite : Finite {x // x ∈ xs} := xs.finite_toSet
    have founded : WellFounded later := Finite.wellFounded_of_trans_of_irrefl later
    intro x member
    induction hx : (⟨x, member⟩ : {x // x ∈ xs}) using founded.induction generalizing x with
    | _ _ ih =>
      subst hx
      cases step : next x with
      | none => exact ⟨x, member, .refl, step⟩
      | some y =>
        have inside := closed x member y step
        obtain ⟨z, found, path, last⟩ := ih ⟨y, inside⟩ (.single step) y inside rfl
        exact ⟨z, found, .head step path, last⟩

end

end RustyCrew.Library

import Mathlib

namespace RustyCrew.Library

open List

/-! ## A page of an ordered result -/

theorem sublist_pair_iff {α : Type} {r : α → α → Prop} {xs : List α} {x y : α}
    (ordered : xs.Pairwise r) (asymm : ∀ x y, r x y → ¬r y x) (isFirst : x ∈ xs)
    (isSecond : y ∈ xs) : [x, y] <+ xs ↔ r x y := by
  rw [pairwise_iff_forall_sublist] at ordered
  refine ⟨ordered, fun before => ?_⟩
  have inTurn : xs.Pairwise fun a b => [a, b] <+ xs ∨ [b, a] <+ xs :=
    pairwise_iff_forall_sublist.mpr .inl
  have differ : x ≠ y := fun same => asymm x y before (same ▸ before)
  have : Std.Symm fun a b => [a, b] <+ xs ∨ [b, a] <+ xs := ⟨fun _ _ => Or.symm⟩
  have either := inTurn.forall isFirst isSecond differ
  exact either.resolve_right fun swapped => asymm x y before (ordered swapped)

section
variable {α : Type} (r : α → α → Prop) [DecidableRel r] {rows : List α} {limit : Nat}

def page (limit : Nat) (rows : List α) : List α := (rows.insertionSort r).take limit

variable {r}

theorem mem_of_mem_page (paged : row ∈ page r limit rows) : row ∈ rows :=
  (mem_insertionSort r).mp (mem_of_mem_take paged)

theorem nodup_page (unique : rows.Nodup) : (page r limit rows).Nodup :=
  ((perm_insertionSort r rows).nodup_iff.mpr unique).sublist (take_sublist _ _)

theorem page_of_length_le (short : rows.length ≤ limit) :
    page r limit rows = rows.insertionSort r := by
  apply take_of_length_le
  rw [length_insertionSort]
  exact short

theorem page_complete_iff (unique : rows.Nodup) :
    (∀ row ∈ rows, row ∈ page r limit rows) ↔ rows.length ≤ limit := by
  constructor
  · intro all
    have short := (subperm_of_subset unique all).length_le
    rw [page, length_take] at short
    omega
  · intro short row member
    rw [page_of_length_le short]
    exact (mem_insertionSort r).mpr member

section
variable [Std.Total r]

theorem filter_before (sorted : (first ++ row :: last).Pairwise r)
    (strict : ∀ other ∈ first, ¬r row other) :
    (first ++ row :: last).filter (fun other => ¬r row other) = first := by
  rw [pairwise_append, pairwise_cons] at sorted
  obtain ⟨-, ⟨later, -⟩, -⟩ := sorted
  have self : r row row := (total_of r row row).elim id id
  rw [filter_append, filter_cons_of_neg (by simpa using self)]
  rw [filter_eq_self.mpr (by simpa using strict)]
  rw [filter_eq_nil_iff.mpr (by simpa using later), append_nil]

variable [IsTrans α r]

theorem pairwise_page (limit : Nat) (rows : List α) : (page r limit rows).Pairwise r :=
  (pairwise_insertionSort r rows).sublist (take_sublist _ _)

theorem mem_page_iff (unique : rows.Nodup)
    (antisymm : ∀ other ∈ rows, r row other → r other row → other = row) (member : row ∈ rows) :
    row ∈ page r limit rows ↔ (rows.filter fun other => ¬r row other).length < limit := by
  have perm := perm_insertionSort r rows
  have sorted := pairwise_insertionSort r rows
  have distinct := perm.nodup_iff.mpr unique
  rw [← (perm.filter _).length_eq, page]
  obtain ⟨first, last, split⟩ := append_of_mem (perm.mem_iff.mpr member)
  have strict : ∀ other ∈ first, ¬r row other := by
    intro other before ordered
    rw [split, pairwise_append] at sorted
    rw [split, nodup_append] at distinct
    have reversed := sorted.2.2 other before row mem_cons_self
    have isRow : other ∈ rows := perm.mem_iff.mp (split ▸ mem_append_left _ before)
    exact distinct.2.2 other before row mem_cons_self (antisymm other isRow ordered reversed)
  rw [split] at sorted distinct ⊢
  rw [filter_before sorted strict]
  constructor
  · intro taken
    by_contra full
    rw [take_append_of_le_length (by omega)] at taken
    rw [nodup_append] at distinct
    exact distinct.2.2 row (mem_of_mem_take taken) row mem_cons_self rfl
  · intro room
    rw [take_append, mem_append]
    right
    rw [take_cons (by omega)]
    exact mem_cons_self

end

end

end RustyCrew.Library

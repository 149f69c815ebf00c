import Mathlib

namespace RustyCrew.Library

open List

section
variable {α β : Type} {merge : α → α → Option α}

def mergeAll (merge : α → α → Option α) : List α → Option α
  | [] => none
  | first :: rest => rest.foldlM merge first

/-- `merged` is `raw` with some runs of adjacent items made into one item each. -/
def Merges (merge : α → α → Option α) (raw merged : List α) : Prop :=
  ∃ groups : List (List α), groups.flatten = raw ∧ groups.map (mergeAll merge) = merged.map some

@[simp] theorem mergeAll_singleton (a : α) : mergeAll merge [a] = some a := rfl

theorem mergeAll_append (joined : mergeAll merge run = some a)
    (merged : merge a b = some c) : mergeAll merge (run ++ [b]) = some c := by
  cases run with
  | nil => cases joined
  | cons first rest =>
    rw [mergeAll] at joined
    simp [mergeAll, foldlM_append, joined, merged]

theorem merges_nil : Merges merge [] [] := ⟨[], rfl, rfl⟩

theorem Merges.append_item (merges : Merges merge raw merged) (a : α) :
    Merges merge (raw ++ [a]) (merged ++ [a]) := by
  obtain ⟨groups, flat, joined⟩ := merges
  exact ⟨groups ++ [[a]], by simp [flat], by simp [joined]⟩

theorem Merges.append_merged
    (merges : Merges merge raw (before ++ [a])) (merged : merge a b = some c) :
    Merges merge (raw ++ [b]) (before ++ [c]) := by
  obtain ⟨groups, flat, joined⟩ := merges
  rw [map_append, map_eq_append_iff] at joined
  obtain ⟨front, back, rfl, joinedFront, joinedBack⟩ := joined
  rw [map_singleton, map_eq_singleton_iff] at joinedBack
  obtain ⟨run, rfl, joinedRun⟩ := joinedBack
  refine ⟨front ++ [run ++ [b]], ?_, ?_⟩
  · simp [← flat]
  · simp [joinedFront, mergeAll_append joinedRun merged]

theorem content_mergeAll {content : α → List β}
    (joins : ∀ a b c, merge a b = some c → content c = content a ++ content b)
    (joined : mergeAll merge run = some a) : content a = run.flatMap content := by
  cases run with
  | nil => cases joined
  | cons first rest =>
    rw [mergeAll] at joined
    induction rest generalizing first with
    | nil =>
      cases joined
      simp
    | cons next rest ih =>
      rw [foldlM_cons, Option.bind_eq_bind, Option.bind_eq_some_iff] at joined
      obtain ⟨both, merged, folded⟩ := joined
      rw [ih both folded, flatMap_cons, joins first next both merged]
      simp

theorem Merges.flatMap_eq {content : α → List β}
    (joins : ∀ a b c, merge a b = some c → content c = content a ++ content b)
    (merges : Merges merge raw merged) : raw.flatMap content = merged.flatMap content := by
  obtain ⟨groups, rfl, joined⟩ := merges
  induction groups generalizing merged with
  | nil =>
    rw [map_nil, eq_comm, map_eq_nil_iff] at joined
    rw [joined]
    rfl
  | cons run groups ih =>
    cases merged with
    | nil => cases joined
    | cons item merged =>
      rw [map_cons, map_cons, List.cons.injEq] at joined
      rw [flatten_cons, flatMap_append, flatMap_cons, ih joined.2, content_mergeAll joins joined.1]

end

end RustyCrew.Library

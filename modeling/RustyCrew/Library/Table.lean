import Mathlib

namespace RustyCrew.Library

open List

/-- A table with a primary key: rows in the order they were written, no two with one key. -/
structure Table {α κ : Type} (key : α → κ) where
  rows : List α
  unique : (rows.map key).Nodup
  deriving DecidableEq

namespace Table
variable {α κ : Type} {key : α → κ}
variable {t : Table key} {k : κ} {a b : α} {test : α → Bool} {edit : α → α}

@[ext] theorem ext {u : Table key} (h : t.rows = u.rows) : t = u := by
  cases t
  cases u
  simp_all

def empty : Table key := ⟨[], nodup_nil⟩

@[simp] theorem rows_empty : (empty : Table key).rows = [] := rfl

variable [DecidableEq κ]

def find? (t : Table key) (k : κ) : Option α := t.rows.find? fun row => key row = k

theorem find?_eq_some : t.find? k = some a ↔ a ∈ t.rows ∧ key a = k := by
  constructor
  · intro found
    exact ⟨mem_of_find?_eq_some found, by simpa using find?_some found⟩
  · rintro ⟨member, rfl⟩
    cases found : t.find? (key a) with
    | none =>
      have absent := find?_eq_none.mp found a member
      simp at absent
    | some b =>
      have keyEq : key b = key a := by simpa using find?_some found
      rw [inj_on_of_nodup_map t.unique (mem_of_find?_eq_some found) member keyEq]

theorem find?_eq_none : t.find? k = none ↔ ∀ a ∈ t.rows, key a ≠ k := by
  simp [find?]

theorem key_of_find? (found : t.find? k = some a) : key a = k :=
  (find?_eq_some.mp found).2

theorem mem_of_find? (found : t.find? k = some a) : a ∈ t.rows :=
  (find?_eq_some.mp found).1

theorem find?_of_mem (member : a ∈ t.rows) : t.find? (key a) = some a :=
  find?_eq_some.mpr ⟨member, rfl⟩

@[simp] theorem find?_empty (k : κ) : (empty : Table key).find? k = none := rfl

private theorem map_key_replace (rows : List α) (a : α) :
    (rows.map fun row => if key row = key a then a else row).map key = rows.map key := by
  rw [map_map]
  apply map_congr_left
  intro row _
  simp only [Function.comp_apply]
  split <;> simp_all

def put (t : Table key) (a : α) : Table key :=
  if found : (t.find? (key a)).isSome then
    ⟨t.rows.map fun row => if key row = key a then a else row, by
      rw [map_key_replace]
      exact t.unique⟩
  else
    ⟨t.rows ++ [a], by
      have absent := find?_eq_none.mp (Option.not_isSome_iff_eq_none.mp found)
      rw [map_append, nodup_append]
      refine ⟨t.unique, by simp, ?_⟩
      rintro k member k' member' rfl
      obtain ⟨row, rowMember, rfl⟩ := mem_map.mp member
      rw [map_singleton, mem_singleton] at member'
      exact absent row rowMember member'⟩

theorem rows_put_of_absent (absent : t.find? (key a) = none) : (t.put a).rows = t.rows ++ [a] := by
  simp [put, absent]

theorem rows_put_of_present (present : t.find? (key a) = some b) :
    (t.put a).rows = t.rows.map fun row => if key row = key a then a else row := by
  simp [put, present]

theorem mem_put : b ∈ (t.put a).rows ↔ b = a ∨ b ∈ t.rows ∧ key b ≠ key a := by
  cases found : t.find? (key a) with
  | none =>
    have absent := find?_eq_none.mp found
    rw [rows_put_of_absent found, mem_append, mem_singleton]
    constructor
    · rintro (member | rfl)
      · exact .inr ⟨member, absent b member⟩
      · exact .inl rfl
    · rintro (rfl | ⟨member, -⟩)
      · exact .inr rfl
      · exact .inl member
  | some old =>
    obtain ⟨oldMember, oldKey⟩ := find?_eq_some.mp found
    rw [rows_put_of_present found, mem_map]
    constructor
    · rintro ⟨row, member, rfl⟩
      by_cases same : key row = key a
      · simp [same]
      · simp [same, member]
    · rintro (rfl | ⟨member, other⟩)
      · exact ⟨old, oldMember, by simp [oldKey]⟩
      · exact ⟨b, member, by simp [other]⟩

theorem forall_put {P : α → Prop} (kept : ∀ a ∈ t.rows, P a) (new : P b) :
    ∀ a ∈ (t.put b).rows, P a := by
  intro a stored
  rcases mem_put.mp stored with rfl | ⟨stored, -⟩
  · exact new
  · exact kept a stored

@[simp] theorem find?_put (t : Table key) (a : α) (k : κ) :
    (t.put a).find? k = if key a = k then some a else t.find? k := by
  split
  · next same => exact find?_eq_some.mpr ⟨mem_put.mpr (.inl rfl), same⟩
  · next other =>
    ext b
    rw [find?_eq_some, find?_eq_some, mem_put]
    constructor
    · rintro ⟨rfl | ⟨member, -⟩, keyEq⟩
      · exact absurd keyEq other
      · exact ⟨member, keyEq⟩
    · rintro ⟨member, rfl⟩
      exact ⟨.inr ⟨member, fun same => other same.symm⟩, rfl⟩

theorem put_put_of_find? (found : t.find? (key b) = some b) (same : key a = key b) :
    (t.put a).put b = t := by
  have present : t.find? (key a) = some b := same ▸ found
  have replaced : (t.put a).find? (key b) = some a := by simp [same]
  ext1
  rw [rows_put_of_present replaced, rows_put_of_present present, map_map]
  conv_rhs => rw [← map_id t.rows]
  apply map_congr_left
  intro row isRow
  by_cases isKey : key row = key b
  · simp [same, inj_on_of_nodup_map t.unique isRow (mem_of_find? found) isKey]
  · simp [isKey, same]

theorem rows_put_split (present : t.find? (key a) = some b) :
    ∃ before after, t.rows = before ++ b :: after ∧ (t.put a).rows = before ++ a :: after := by
  obtain ⟨member, same⟩ := find?_eq_some.mp present
  obtain ⟨before, after, split⟩ := append_of_mem member
  have unique := t.unique
  rw [split, map_append, map_cons, nodup_middle, nodup_cons, ← map_append] at unique
  have kept {rows : List α} (others : ∀ row ∈ rows, row ∈ before ++ after) :
      (rows.map fun row => if key row = key a then a else row) = rows := by
    conv_rhs => rw [← map_id rows]
    apply map_congr_left
    intro row isRow
    have differs : key row ≠ key a := by
      intro equal
      exact unique.1 (mem_map.mpr ⟨row, others row isRow, equal.trans same.symm⟩)
    rw [if_neg differs, id]
  refine ⟨before, after, split, ?_⟩
  rw [rows_put_of_present present, split, map_append, map_cons, if_pos same,
    kept (by simp +contextual), kept (by simp +contextual)]

def update (t : Table key) (k : κ) (test : α → Bool) (edit : α → α) : Table key :=
  match t.find? k with
  | some row => if test row then t.put (edit row) else t
  | none => t

theorem rows_update (sameKey : ∀ row, key (edit row) = key row) : (t.update k test edit).rows =
      t.rows.map fun row => if key row = k ∧ test row = true then edit row else row := by
  have unchanged (other : ∀ row ∈ t.rows, ¬(key row = k ∧ test row = true)) :
      t.rows = t.rows.map fun row => if key row = k ∧ test row = true then edit row else row := by
    conv_lhs => rw [← map_id t.rows]
    apply map_congr_left
    intro row member
    rw [if_neg (other row member), id]
  cases found : t.find? k with
  | none =>
    rw [update, found]
    exact unchanged fun row member both => find?_eq_none.mp found row member both.1
  | some old =>
    obtain ⟨oldMember, rfl⟩ := find?_eq_some.mp found
    have only : ∀ row ∈ t.rows, key row = key old → row = old := fun row member same =>
      inj_on_of_nodup_map t.unique member oldMember same
    cases passes : test old with
    | false =>
      simp only [update, found, passes, Bool.false_eq_true, if_false]
      apply unchanged
      intro row member both
      rw [only row member both.1, passes] at both
      cases both.2
    | true =>
      have present : t.find? (key (edit old)) = some old := by rw [sameKey, found]
      simp only [update, found, passes, if_true]
      rw [rows_put_of_present present, sameKey]
      apply map_congr_left
      intro row member
      by_cases same : key row = key old
      · rw [only row member same, passes]
        simp
      · simp [same]

@[simp] theorem find?_update (sameKey : ∀ row, key (edit row) = key row) (k' : κ) :
    (t.update k test edit).find? k' =
      if k = k' then (t.find? k).map fun row => if test row then edit row else row
      else t.find? k' := by
  cases found : t.find? k with
  | none =>
    by_cases same : k = k'
    · simp [update, found, ← same]
    · simp [update, found, same]
  | some row =>
    have isKey := key_of_find? found
    by_cases same : k = k'
    · subst same
      by_cases passes : test row = true
      · simp [update, found, passes, sameKey, isKey]
      · simp [update, found, passes]
    · by_cases passes : test row = true
      · simp [update, found, passes, sameKey, isKey, same]
      · simp [update, found, passes, same]

def revise (t : Table key) (test : α → Bool) (edit : α → α)
    (sameKey : ∀ row, key (edit row) = key row) : Table key :=
  ⟨t.rows.map fun row => if test row then edit row else row, by
    have same : (t.rows.map fun row => if test row then edit row else row).map key =
        t.rows.map key := by
      rw [map_map]
      apply map_congr_left
      intro row _
      simp only [Function.comp_apply]
      split <;> simp [sameKey]
    rw [same]
    exact t.unique⟩

@[simp] theorem find?_revise (t : Table key) (test : α → Bool) (edit : α → α)
    (sameKey : ∀ row, key (edit row) = key row) (k : κ) :
    (t.revise test edit sameKey).find? k =
      (t.find? k).map fun row => if test row then edit row else row := by
  rw [find?, find?, revise, find?_map]
  congr 2
  funext row
  simp only [Function.comp_apply]
  split <;> simp [sameKey]

def erase (t : Table key) (k : κ) : Table key :=
  ⟨t.rows.filter fun row => key row ≠ k, (filter_sublist.map key).nodup t.unique⟩

theorem mem_erase : a ∈ (t.erase k).rows ↔ a ∈ t.rows ∧ key a ≠ k := by
  simp [erase]

@[simp] theorem find?_erase (t : Table key) (k k' : κ) :
    (t.erase k).find? k' = if k = k' then none else t.find? k' := by
  split
  · next same =>
    subst same
    exact find?_eq_none.mpr fun a member => (mem_erase.mp member).2
  · next other =>
    ext b
    rw [find?_eq_some, find?_eq_some, mem_erase]
    constructor
    · rintro ⟨⟨member, -⟩, keyEq⟩
      exact ⟨member, keyEq⟩
    · rintro ⟨member, rfl⟩
      exact ⟨⟨member, fun same => other same.symm⟩, rfl⟩

def discard (t : Table key) (test : α → Bool) : Table key :=
  ⟨t.rows.filter fun row => !test row, (filter_sublist.map key).nodup t.unique⟩

omit [DecidableEq κ] in
theorem mem_discard : a ∈ (t.discard test).rows ↔ a ∈ t.rows ∧ test a = false := by
  simp [discard]

def select (t : Table key) (test : α → Bool) : List α := t.rows.filter test

omit [DecidableEq κ] in
theorem mem_select : a ∈ t.select test ↔ a ∈ t.rows ∧ test a = true := by
  simp [select]

omit [DecidableEq κ] in
theorem nodup_select (t : Table key) (test : α → Bool) : ((t.select test).map key).Nodup :=
  (filter_sublist.map key).nodup t.unique

/-- The rows that a loop has still to go through are in the table as they were listed. -/
structure Listed (t : Table key) (rows : List α) : Prop where
  distinct : (rows.map key).Nodup
  stored : ∀ a ∈ rows, t.find? (key a) = some a

theorem listed_of_perm {rows : List α} (perm : rows.Perm (t.select test)) : t.Listed rows where
  distinct := (perm.map key).nodup_iff.mpr (t.nodup_select test)
  stored _ member := find?_of_mem (mem_select.mp (perm.mem_iff.mp member)).1

theorem Listed.tail (listed : t.Listed (a :: rest)) : t.Listed rest :=
  ⟨(nodup_cons.mp listed.distinct).2, fun b member => listed.stored b (.tail _ member)⟩

theorem Listed.put (listed : t.Listed (a :: rest)) (same : key b = key a) :
    (t.put b).Listed rest where
  distinct := listed.tail.distinct
  stored c member := by
    have absent := (nodup_cons.mp listed.distinct).1
    rw [find?_put, if_neg]
    · exact listed.tail.stored c member
    · intro again
      exact absent (same.symm.trans again ▸ mem_map_of_mem member)

theorem select_key (t : Table key) (k : κ) :
    t.select (fun row => key row = k) = (t.find? k).toList := by
  cases found : t.find? k with
  | none =>
    have absent := find?_eq_none.mp found
    simpa [select, filter_eq_nil_iff] using absent
  | some a =>
    obtain ⟨member, rfl⟩ := find?_eq_some.mp found
    apply perm_singleton.mp
    refine (perm_ext_iff_of_nodup (t.unique.of_map.filter _) (nodup_singleton a)).mpr ?_
    intro b
    rw [mem_filter, decide_eq_true_iff, mem_singleton]
    constructor
    · rintro ⟨other, same⟩
      exact inj_on_of_nodup_map t.unique other member same
    · rintro rfl
      exact ⟨member, rfl⟩

theorem select_put_of_absent (absent : t.find? (key a) = none) (test : α → Bool) :
    (t.put a).select test = t.select test ++ if test a then [a] else [] := by
  rw [select, rows_put_of_absent absent, filter_append, select]
  cases selected : test a <;> simp [selected]

theorem select_put_of_present (present : t.find? (key a) = some b) (test : α → Bool)
    (same : test a = test b) : (t.put a).select test =
      (t.select test).map fun row => if key row = key a then a else row := by
  rw [select, rows_put_of_present present, filter_map, select]
  congr 1
  apply filter_congr
  intro row member
  simp only [Function.comp_apply]
  split
  · next keyEq =>
    have := (find?_of_mem member).symm.trans (keyEq ▸ present)
    rw [Option.some.injEq] at this
    rw [same, this]
  · rfl

theorem length_select_put (present : t.find? (key a) = some b) (test : α → Bool) :
    ((t.put a).select test).length + (test b).toNat = (t.select test).length + (test a).toNat := by
  obtain ⟨before, after, old, new⟩ := rows_put_split present
  rw [select, select, old, new, filter_append, filter_append, length_append, length_append]
  cases onA : test a <;> cases onB : test b <;> simp [onA, onB] <;> omega

theorem select_put_of_not_selected (new : test a = false)
    (old : ∀ b, t.find? (key a) = some b → test b = false) :
    (t.put a).select test = t.select test := by
  cases found : t.find? (key a) with
  | none => simp [select_put_of_absent found, new]
  | some b =>
    rw [select_put_of_present found test (new.trans (old b found).symm)]
    conv_rhs => rw [← map_id (t.select test)]
    apply map_congr_left
    intro row member
    obtain ⟨rowMember, selected⟩ := mem_select.mp member
    split
    · next keyEq =>
      have isOld := old row (keyEq ▸ find?_of_mem rowMember)
      rw [isOld] at selected
      cases selected
    · rfl

end Table

end RustyCrew.Library

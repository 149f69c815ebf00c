import RustyCrew.Engine.ToolRegistry
import RustyCrew.Library.Lineages

namespace RustyCrew.Proof.Engine

open RustyCrew.Engine Library Relation

section
variable {entries : List ToolMetadata} {tool : ToolMetadata}

def replacementIn (entries : List ToolMetadata) (tool : ToolMetadata) : Option ToolMetadata :=
  tool.replacementName.bind fun name => entries.find? fun entry => entry.name = name

theorem replacementIn_mem (found : replacementIn entries tool = some next) : next ∈ entries := by
  obtain ⟨name, -, hit⟩ := Option.bind_eq_some_iff.mp found
  exact List.mem_of_find?_eq_some hit

theorem replacementIn_eq_none (accepted : validateDeprecations entries = [])
    (member : tool ∈ entries) : replacementIn entries tool = none ↔ tool.deprecated = none := by
  obtain ⟨index, inside, rfl⟩ := List.mem_iff_getElem.mp member
  have silent := List.flatMap_eq_nil_iff.mp accepted (entries[index], index)
    (List.mk_mem_zipIdx_iff_getElem?.mpr (List.getElem?_eq_getElem inside))
  simp only [validateDeprecation, List.append_eq_nil_iff] at silent
  cases named : entries[index].replacementName <;>
    cases deprecated : entries[index].deprecated <;>
    simp_all [replacementIn]

/-- Where the deprecation pass is silent, every chain of replacements ends at a live tool exactly
when none of them returns to where it began. -/
theorem replacements_end_iff (accepted : validateDeprecations entries = []) :
    (∀ tool ∈ entries, tool.deprecated.isSome → ∃ live ∈ entries,
      ReflTransGen (Leads (replacementIn entries)) tool live ∧ live.deprecated = none) ↔
      ∀ tool ∈ entries, ¬TransGen (Leads (replacementIn entries)) tool tool := by
  rw [← ends_iff_acyclic fun _ _ _ found => replacementIn_mem found]
  refine forall₂_congr fun tool member => ?_
  constructor
  · intro ends
    cases deprecated : tool.deprecated with
    | none => exact ⟨tool, member, .refl, (replacementIn_eq_none accepted member).mpr deprecated⟩
    | some _ =>
      obtain ⟨live, found, path, last⟩ := ends (by simp [deprecated])
      exact ⟨live, found, path, (replacementIn_eq_none accepted found).mpr last⟩
  · intro ⟨live, found, path, last⟩ _
    exact ⟨live, found, path, (replacementIn_eq_none accepted found).mp last⟩

end

def retired (name replacement : String) : ToolMetadata :=
  ⟨name, some ⟨"superseded", "1.0.0", some replacement, none⟩, none⟩

theorem replacements_end_old_new :
    validateDeprecations [retired "old" "new", ⟨"new", none, none⟩] = [] ∧
    ∀ tool ∈ [retired "old" "new", ⟨"new", none, none⟩], ¬TransGen
      (Leads (replacementIn [retired "old" "new", ⟨"new", none, none⟩])) tool tool := by
  refine ⟨?accepted, (replacements_end_iff ?accepted).mp fun tool member _ => ?_⟩
  case accepted => decide +kernel
  refine ⟨⟨"new", none, none⟩, by simp, ?_, rfl⟩
  obtain rfl | rfl := List.mem_pair.mp member
  · exact .single rfl
  · exact .refl

theorem replacements_end_not_left_right :
    validateDeprecations [retired "left" "right", retired "right" "left"] = [] ∧
      ¬∀ tool ∈ [retired "left" "right", retired "right" "left"], tool.deprecated.isSome →
        ∃ live ∈ [retired "left" "right", retired "right" "left"], ReflTransGen (Leads
          (replacementIn [retired "left" "right", retired "right" "left"])) tool live ∧
          live.deprecated = none := by
  refine ⟨by decide +kernel, fun ends => ?_⟩
  obtain ⟨live, member, -, last⟩ := ends _ List.mem_cons_self rfl
  obtain rfl | rfl := List.mem_pair.mp member <;> simp [retired] at last

end RustyCrew.Proof.Engine

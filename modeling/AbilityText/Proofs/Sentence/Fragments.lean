/-
AbilityText.Proofs.Sentence.Fragments — the chain of the fragments that were found in a sentence.

Adding a fragment inserts the component that it makes, and a blank fragment makes none. So fragments
have the chain of a list (`chainOf_eq_ofList`), and what is known of such chains holds for it: which
components it has (`mem_components_chainOf`), and that it is empty only where every fragment is
blank (`isEmpty_chainOf`).
-/
import AbilityText.Proofs.Chain
import AbilityText.Sentence.Analysis

namespace AbilityText

namespace Sentence

/-- The component that a fragment makes, if its text is not blank. -/
def component? (fragment : Fragment) : Option Component :=
  (Component.new fragment.1 fragment.2).toOption

theorem component?_eq_some_iff {fragment : Fragment} {c : Component} :
    component? fragment = some c ↔ Component.new fragment.1 fragment.2 = .ok c := by
  unfold component?
  cases Component.new fragment.1 fragment.2 <;> simp [Except.toOption]

/-- The chain of fragments is the chain of the components that they make. -/
theorem chainOf_eq_ofList (fragments : List Fragment) :
    chainOf fragments = .ofList (fragments.filterMap component?) := by
  rw [chainOf, Chain.ofList, List.foldl_filterMap]
  refine congrArg (fun step => fragments.foldl step Chain.empty) ?_
  funext chain fragment
  unfold Chain.add component?
  cases Component.new fragment.1 fragment.2 <;> rfl

theorem mem_components_chainOf {fragments : List Fragment} {c : Component} :
    c ∈ (chainOf fragments).components ↔
      ∃ fragment ∈ fragments, Component.new fragment.1 fragment.2 = .ok c := by
  rw [chainOf_eq_ofList, Chain.components_ofList, List.mem_eraseDups, List.mem_filterMap]
  simp only [component?_eq_some_iff]

theorem isEmpty_chainOf {fragments : List Fragment}
    (h : ∃ fragment ∈ fragments, Text.isBlank fragment.2 = false) :
    (chainOf fragments).isEmpty = false := by
  obtain ⟨fragment, listed, solid⟩ := h
  obtain ⟨c, made, -⟩ := Component.new_of_not_blank fragment.1 solid
  have member : c ∈ (chainOf fragments).components :=
    mem_components_chainOf.2 ⟨fragment, listed, made⟩
  rw [Chain.isEmpty, List.isEmpty_eq_false_iff]
  exact List.ne_nil_of_mem member

end Sentence

end AbilityText

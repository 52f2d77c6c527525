/-
AbilityText.Proofs.Chain.Spelling — the spelling of a text does not show in the components that are
made of it.

Components, templates and stored chains are compared by normal form. It is the layout of the words
in lower case that has single spaces only, and none at its ends (`Text.laidOut_normalize`), so there
is one for all spellings of a text: those that differ in white space and in the case of ASCII
letters. Whatever takes a text by its normal form alone gives the same for all of them.
-/
import AbilityText.Chain
import AbilityText.Proofs.Text.Layout

namespace AbilityText

/-- **The normal form is canonical.** It is its own normal form. It is the layout of the words in
lower case with single spaces only, and none at its ends. Spellings of a text that differ in white
space and in the case of ASCII letters alone have the same one, so the same components are made of
them, or the same error, and no chain tells them apart. -/
theorem normalize_canonical (s : Text) :
    Text.normalize (Text.normalize s) = Text.normalize s ∧
    Text.IsTrimmed (Text.normalize s) ∧ Text.SingleSpaced (Text.normalize s) ∧
    (∀ ws, Text.LaidOut ws s → Text.LaidOut (ws.map Text.lower) (Text.normalize s)) ∧
    ∀ t, Text.Respelled s t →
      Text.normalize s = Text.normalize t ∧
      (∀ category, Component.new category s = Component.new category t) ∧
      (∀ tag, Component.parse tag s = Component.parse tag t) ∧
      ∀ chain : Chain,
        (∀ category, chain.hasComponent category s = chain.hasComponent category t) ∧
        chain.hasValue s = chain.hasValue t := by
  have idempotent := Text.normalize_normalize s
  obtain ⟨trimmed, spaced⟩ := Text.collapse_eq_self_iff.1 (Text.collapse_normalize s)
  refine ⟨idempotent, trimmed, spaced, fun ws => Text.laidOut_normalize, fun t respelled => ?_⟩
  have same := Text.normalize_eq_of_respelled respelled
  have components : ∀ category, Component.new category s = Component.new category t := by
    intro category
    simp only [Component.new, same]
  refine ⟨same, components, fun tag => ?_, fun chain => ⟨fun category => ?_, ?_⟩⟩
  · simp only [Component.parse, components]
  · rw [Chain.hasComponent, same, Chain.hasComponent]
  · rw [Chain.hasValue, same, Chain.hasValue]

/-- Line ends, capitals and a capital sigma at the end of a word: two spellings of one trigger, and
one component. -/
theorem normalize_canonical_atTheEnd :
    let spelling : Text := " At\nthe  END of ΜΑΣ\t"
    let other : Text := "at THE end OF ΜΑΣ"
    Text.Respelled spelling other ∧ Text.normalize spelling = Text.normalize other ∧
      Text.normalize other = "at the end of μας" ∧
      Component.parse "trigger" spelling = Component.parse "trigger" other := by
  intro spelling other
  have respelled : Text.Respelled spelling other :=
    ⟨_, _, Text.laidOut_words spelling, Text.laidOut_words other, by decide⟩
  obtain ⟨-, -, -, -, canonical⟩ := normalize_canonical spelling
  obtain ⟨same, -, components, -⟩ := canonical other respelled
  exact ⟨respelled, same, by decide, components "trigger"⟩

end AbilityText

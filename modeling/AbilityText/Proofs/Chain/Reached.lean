/-
AbilityText.Proofs.Chain.Reached — every chain that the library can make stands for what it stores.

`Reached` are the chains of every sequence of operations: building step by step, uniting, changing
the scalars, reading a field, parsing a text of a game, and analysing a sentence. An operation that
fails leaves the chain as it was, and so is a step here as well. All of these come down to
insertions, so reached chains are built (`Reached.built`) and hence consistent. From that follows
that the five ways of asking for a category agree, and that asking for a component is making it and
looking for it (`queries_agree_of_reached`).
-/
import Mathlib.Tactic.TFAE
import AbilityText.Proofs.Classification.Agreement
import AbilityText.Proofs.Sentence.Fragments
import AbilityText.Record.ChainField

namespace AbilityText

/-! ## §1 Operations come down to insertions -/

/-- Adding a text inserts its component; a blank text changes nothing. -/
theorem Chain.Built.add {chain : Chain} (h : chain.Built) (category : Category) (text : Text) :
    Chain.Built ((chain.add category text).toOption.getD chain) := by
  unfold Chain.add
  cases Component.new category text with
  | error cause => exact h
  | ok c => exact h.insert c

theorem ChainField.built_of_decodeChain {field : Text} {chain : Chain}
    (h : ChainField.decodeChain field = .ok chain) : chain.Built := by
  unfold ChainField.decodeChain at h
  cases read : (ChainField.items field).mapM ChainField.decodeComponent with
  | error cause =>
    rw [read] at h
    cases h
  | ok cs =>
    rw [read] at h
    cases h
    exact Chain.built_ofList cs

namespace Sentence

theorem built_chainOf (fragments : List Fragment) : (chainOf fragments).Built := by
  rw [chainOf_eq_ofList]
  exact Chain.built_ofList _

theorem built_analyse (lexicon : Lexicon) (text : Text) : (analyse lexicon text).2.Built := by
  unfold analyse
  dsimp only
  split
  · exact .empty
  · split
    · exact built_chainOf _
    · exact built_chainOf _

end Sentence

namespace Chain

/-! ## §2 Reached chains -/

/-- The chains that sequences of operations reach. -/
inductive Reached : Chain → Prop
  | empty : Reached .empty
  | ofList (cs : List Component) : Reached (.ofList cs)
  | decoded {field : Text} {chain : Chain} :
      ChainField.decodeChain field = .ok chain → Reached chain
  | classified (d : Dialect) (options : ParseOptions) (text : Text) :
      Reached (d.classify options text).chain
  | analysed (lexicon : Lexicon) (text : Text) : Reached (Sentence.analyse lexicon text).2
  | insert {chain : Chain} (c : Component) : Reached chain → Reached (chain.insert c)
  /-- The text may be blank: then nothing is added. -/
  | add {chain : Chain} (category : Category) (text : Text) :
      Reached chain → Reached ((chain.add category text).toOption.getD chain)
  | merge {chain other : Chain} : Reached chain → Reached other → Reached (chain.merge other)
  | setQualifier {chain : Chain} (qualifier : Option Text) :
      Reached chain → Reached (chain.setQualifier qualifier)
  | addNumber {chain : Chain} (x : Double) : Reached chain → Reached (chain.addNumber x)

/-- **Every reached chain is built from insertions.** -/
theorem Reached.built {chain : Chain} (h : Reached chain) : Built chain := by
  induction h with
  | empty => exact .empty
  | ofList cs => exact built_ofList cs
  | decoded read => exact ChainField.built_of_decodeChain read
  | classified d options text => exact d.built_chain_classify options text
  | analysed lexicon text => exact Sentence.built_analyse lexicon text
  | insert c _ ih => exact ih.insert c
  | add category text _ ih => exact ih.add category text
  | merge _ _ ih ihOther => exact ih.merge ihOther
  | setQualifier qualifier _ ih => exact ih.setQualifier qualifier
  | addNumber x _ ih => exact ih.addNumber x

/-! ## §3 What holds of all of them -/

/-- The stored set of a consistent chain is the set of its categories. -/
theorem Consistent.present_eq {chain : Chain} (h : Consistent chain) :
    chain.present = .ofList (chain.components.map Component.category) :=
  CategorySet.ext_has fun category => by rw [h.has_present, CategorySet.has_ofList]

section
variable {chain : Chain} {category : Category}

theorem isSome_firstOf?_iff :
    (chain.firstOf? category).isSome = true ↔ chain.componentsOf category ≠ [] := by
  rw [firstOf?]
  cases chain.componentsOf category <;> simp

/-- Whatever the index, there is a text when there is a first one. -/
theorem isSome_nthTextOf?_iff (index : Nat) :
    (chain.nthTextOf? category index).isSome = true ↔ chain.componentsOf category ≠ [] := by
  rw [nthTextOf?, Option.isSome_map, Option.isSome_or, Bool.or_eq_true, isSome_firstOf?_iff]
  constructor
  · rintro (found | found)
    · intro none
      rw [none] at found
      simp at found
    · exact found
  · intro some
    exact .inr some

/-- The five ways of asking for a category agree. -/
theorem Consistent.categoryQueries_tfae (h : Consistent chain) (category : Category)
    (index : Nat) :
    [chain.hasCategory category = true,
      category ∈ chain.categories.members,
      chain.componentsOf category ≠ [],
      (chain.firstOf? category).isSome = true,
      (chain.nthTextOf? category index).isSome = true].TFAE := by
  tfae_have 1 ↔ 2 := CategorySet.mem_members.symm
  tfae_have 1 ↔ 3 := h.hasCategory_iff.trans componentsOf_ne_nil_iff.symm
  tfae_have 3 ↔ 4 := isSome_firstOf?_iff.symm
  tfae_have 3 ↔ 5 := (isSome_nthTextOf?_iff index).symm
  tfae_finish

end

/-- **What every reached chain is, and what it answers.** Its components are distinct, their texts
are normal forms with something in them, the stored set of categories is theirs, and no two numbers
are equal. So all ways of asking for a category agree, and a component is found just when its text
makes one and the chain holds that. -/
theorem queries_agree_of_reached {chain : Chain} (h : Reached chain) :
    (chain.components.Nodup ∧
      (∀ c ∈ chain.components, c.text ≠ [] ∧ Text.normalize c.text = c.text) ∧
      chain.present = .ofList (chain.components.map Component.category) ∧
      chain.numbers.Pairwise fun x y => x.same y = false) ∧
    ∀ category,
      (∀ index : Nat,
        [chain.hasCategory category = true,
          category ∈ chain.categories.members,
          chain.componentsOf category ≠ [],
          (chain.firstOf? category).isSome = true,
          (chain.nthTextOf? category index).isSome = true].TFAE) ∧
      ∀ value, chain.hasComponent category value = true ↔
        ∃ c, Component.new category value = .ok c ∧ c ∈ chain.components := by
  have consistent := h.built.consistent
  refine ⟨⟨consistent.nodup, ?_, consistent.present_eq, consistent.numbers_differ⟩, ?_⟩
  · intro c _
    exact ⟨c.isNonempty, c.isNormal_text⟩
  · intro category
    exact ⟨consistent.categoryQueries_tfae category, fun value => consistent.hasComponent_iff_new⟩

/-- A cost that is read from a field. -/
def tapCost : Component := ⟨.cost, "tap", ⟨"tap", by decide⟩, by decide⟩

/-- The chain of a parsed text, with the chain of a field merged into it and a number given twice.
-/
def mergedChain : Chain :=
  (((Games.Hearthstone.dialect.classify {} "Battlecry: freeze a minion").chain.merge
    (.ofList [tapCost])).addNumber ⟨0x4000000000000000⟩).addNumber ⟨0x4000000000000000⟩

/-- The number is there once, and a blank text added no component; that of the field is found. -/
theorem queries_agree_of_reached_mergedChain :
    let chain := (mergedChain.add .effect "  ").toOption.getD mergedChain
    Reached chain ∧ chain.size = 4 ∧ chain.components.Nodup ∧
      chain.present = .ofList (chain.components.map Component.category) ∧
      chain.numbers.length = 1 ∧ (chain.numbers.Pairwise fun x y => x.same y = false) ∧
      (chain.nthTextOf? .cost 7).isSome = true ∧
      ∃ c, Component.new .cost " TAP" = .ok c ∧ c ∈ chain.components := by
  dsimp only
  have read : ChainField.decodeChain " Tap :cost," = .ok (.ofList [tapCost]) := by decide
  have reached : Reached ((mergedChain.add .effect "  ").toOption.getD mergedChain) :=
    (((Reached.classified _ _ _).merge (.decoded read)).addNumber _).addNumber _ |>.add _ _
  obtain ⟨⟨nodup, -, present, differ⟩, queries⟩ := queries_agree_of_reached reached
  obtain ⟨asks, finds⟩ := queries .cost
  refine ⟨reached, by decide +kernel, nodup, present, by decide +kernel, differ, ?_, ?_⟩
  · exact ((asks 7).out 0 4).1 (by decide +kernel)
  · exact (finds " TAP").1 (by decide +kernel)

end Chain

end AbilityText

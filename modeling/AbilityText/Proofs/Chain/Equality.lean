/-
AbilityText.Proofs.Chain.Equality — comparing chains is comparing sets of components.

A comparison looks at two sizes and at one inclusion. For lists without repeats that makes the one a
permutation of the other, and reached chains have no repeats. A chain can also be known by its
components in their own order, which is what a hash is made of. That order is total and separates
all components (§1), so permuted lists have one sorted form and no others share it
(`sorted_eq_iff_perm`).

On reached chains the two ways agree, and comparing is an equivalence in which the order of
insertion, the qualifier and the numbers take no part (`same_iff_sorted_eq_of_reached`).
-/
import AbilityText.Proofs.Chain.Reached

namespace AbilityText

/-! ## §1 The order of components -/

namespace Component

/-- Components are compared by the index of the category first, and by the text second. -/
theorem compare_eq_lex : Component.compare =
    compareLex (compareOn fun c => c.category.index) (compareOn Component.text) := rfl

instance : Std.TransCmp Component.compare := by
  rw [compare_eq_lex]
  infer_instance

/-- Components that are in the same place are the same. -/
instance : Std.LawfulEqCmp Component.compare where
  eq_of_compare {a b} h := by
    rw [Component.compare, Ordering.then_eq_eq] at h
    obtain ⟨category, text⟩ := h
    have index : a.category.index = b.category.index := Std.LawfulEqCmp.eq_of_compare category
    exact ext_of (Category.index_injective index) (Std.LawfulEqCmp.eq_of_compare text)

end Component

namespace Chain

/-! ## §2 The sorted components -/

theorem perm_sorted (chain : Chain) : chain.sorted.Perm chain.components :=
  List.mergeSort_perm _ _

theorem pairwise_sorted (chain : Chain) :
    chain.sorted.Pairwise fun a b => (a.compare b).isLE = true := by
  refine List.pairwise_mergeSort ?_ ?_ chain.components
  · intro a b c first second
    exact Std.TransCmp.isLE_trans first second
  · intro a b
    rw [Bool.or_eq_true]
    by_cases first : (a.compare b).isLE = true
    · exact .inl first
    · right
      have greater : a.compare b = .gt := by simpa using first
      rw [Std.OrientedCmp.lt_of_gt greater]
      rfl

/-- **Sorted forms agree exactly when the components do, up to their order.** -/
theorem sorted_eq_iff_perm {a b : Chain} :
    a.sorted = b.sorted ↔ a.components.Perm b.components := by
  constructor
  · intro same
    have perm := a.perm_sorted.symm
    rw [same] at perm
    exact perm.trans b.perm_sorted
  · intro perm
    have sorted : a.sorted.Perm b.sorted := (a.perm_sorted.trans perm).trans b.perm_sorted.symm
    refine sorted.eq_of_pairwise ?_ a.pairwise_sorted b.pairwise_sorted
    intro c d _ _ first second
    have equal : c.compare d = .eq := Std.OrientedCmp.isLE_antisymm first second
    exact Std.LawfulEqCmp.eq_of_compare equal

/-! ## §3 Comparing -/

/-- A comparison depends on the components only, and not on their order. -/
theorem same_congr {a a' b b' : Chain} (left : a.components.Perm a'.components)
    (right : b.components.Perm b'.components) : a.same b = a'.same b' := by
  have holds : b.holds = b'.holds := by
    funext c
    exact right.contains_eq
  rw [same, same, size, size, size, size, left.length_eq, right.length_eq, holds, left.all_eq]

theorem components_setQualifier (chain : Chain) (qualifier : Option Text) :
    (chain.setQualifier qualifier).components = chain.components := rfl

theorem components_addNumber (chain : Chain) (x : Double) :
    (chain.addNumber x).components = chain.components := by
  unfold addNumber
  split <;> rfl

/-- Consistent chains compare equal exactly when their sorted forms are equal. -/
theorem Consistent.same_iff_sorted_eq {a b : Chain} (ha : Consistent a) (hb : Consistent b) :
    a.same b = true ↔ a.sorted = b.sorted := by
  rw [same_iff ha hb, sorted_eq_iff_perm, List.perm_ext_iff_of_nodup ha.nodup hb.nodup]

/-- The order in which components are inserted does not show in a comparison. -/
theorem same_ofList_of_perm {cs cs' : List Component} (perm : cs.Perm cs') :
    (ofList cs).same (ofList cs') = true := by
  rw [same_iff (built_ofList cs).consistent (built_ofList cs').consistent]
  intro c
  rw [components_ofList, components_ofList, List.mem_eraseDups, List.mem_eraseDups]
  exact perm.mem_iff

/-- **Comparing reached chains.** Two of them compare equal exactly when they have the same
components, and exactly when their sorted components are the same list. The comparison is an
equivalence. Neither the order of the components nor the order of insertions shows in it, nor does
any scalar of the two chains. -/
theorem same_iff_sorted_eq_of_reached {a b : Chain} (ha : Reached a) (hb : Reached b) :
    [a.same b = true,
      ∀ c, c ∈ a.components ↔ c ∈ b.components,
      a.sorted = b.sorted].TFAE ∧
    (a.same a = true ∧ (a.same b = true → b.same a = true) ∧
      ∀ c, Reached c → a.same b = true → b.same c = true → a.same c = true) ∧
    (∀ a' b' : Chain, a.components.Perm a'.components → b.components.Perm b'.components →
      a'.same b' = a.same b) ∧
    (∀ cs cs' : List Component, cs.Perm cs' → (ofList cs).same (ofList cs') = true) ∧
    ∀ (qualifier : Option Text) (x : Double),
      ((a.setQualifier qualifier).addNumber x).same b = a.same b ∧
        b.same ((a.setQualifier qualifier).addNumber x) = b.same a := by
  have left := ha.built.consistent
  have right := hb.built.consistent
  refine ⟨?_, ⟨?_, ?_, ?_⟩, ?_, fun _ _ => same_ofList_of_perm, ?_⟩
  · tfae_have 1 ↔ 2 := same_iff left right
    tfae_have 1 ↔ 3 := left.same_iff_sorted_eq right
    tfae_finish
  · rw [left.same_iff_sorted_eq left]
  · rw [left.same_iff_sorted_eq right, right.same_iff_sorted_eq left]
    exact Eq.symm
  · intro c hc
    have third := hc.built.consistent
    rw [left.same_iff_sorted_eq right, right.same_iff_sorted_eq third,
        left.same_iff_sorted_eq third]
    exact Eq.trans
  · intro a' b' permLeft permRight
    exact (same_congr permLeft permRight).symm
  · intro qualifier x
    have perm : (((a.setQualifier qualifier).addNumber x).components).Perm a.components := by
      rw [components_addNumber, components_setQualifier]
    exact ⟨same_congr perm (.refl _), same_congr (.refl _) perm⟩

/-- A parsed text, and a chain that was read from a field the other way round and given a qualifier
and a number: they compare equal, and so do their sorted forms. -/
theorem same_iff_sorted_eq_of_reached_drawTwo :
    let parsed := (Games.Hearthstone.dialect.classify {} "Draw 2").chain
    ∃ field : Chain, ChainField.decodeChain "2:value,draw:effect" = .ok field ∧
      Reached parsed ∧ Reached field ∧ parsed.components ≠ field.components ∧
      parsed.sorted = field.sorted ∧ field.same parsed = true ∧
      ((parsed.setQualifier (some "once")).addNumber ⟨0x4000000000000000⟩).same field = true := by
  intro parsed
  obtain ⟨field, read, different, same⟩ : ∃ field : Chain,
      ChainField.decodeChain "2:value,draw:effect" = .ok field ∧
        parsed.components ≠ field.components ∧ parsed.same field = true := by
    exact ⟨.ofList [⟨.value, "2", ⟨"2", by decide⟩, by decide⟩,
      ⟨.effect, "draw", ⟨"draw", by decide⟩, by decide⟩], by decide +kernel, by decide +kernel,
      by decide +kernel⟩
  have parsedReached : Reached parsed := .classified _ _ _
  have fieldReached : Reached field := .decoded read
  obtain ⟨agree, ⟨-, symmetric, -⟩, -, -, scalars⟩ :=
    same_iff_sorted_eq_of_reached parsedReached fieldReached
  refine ⟨field, read, parsedReached, fieldReached, different, (agree.out 0 2).1 same,
    symmetric same, ?_⟩
  rw [(scalars (some "once") ⟨0x4000000000000000⟩).1]
  exact same

end Chain

end AbilityText

/-
AbilityText.Proofs.Judging.Order — what judges a chain by its components judges all chains of the
same components alike.

Chains that compare equal are `Alike`: the components of the one are those of the other in another
order, and the stored sets are the same. A judgement `IgnoresOrder` when it answers alike for such
chains. Every question about a category, a component or a value does (§1), so does every rule whose
own check does, every shape, kind and pattern (§2), and with that every judgement of the built-in
games (`verdicts_eq_of_same`).
-/
import AbilityText.Games
import AbilityText.Proofs.Chain

namespace AbilityText

namespace Chain

/-! ## §1 Chains of the same components -/

/-- The same components in some order, and the same stored set of categories. -/
structure Alike (a b : Chain) : Prop where
  perm : a.components.Perm b.components
  present : a.present = b.present

/-- Consistent chains that compare equal are alike. -/
theorem Consistent.alike {a b : Chain} (ha : Consistent a) (hb : Consistent b)
    (same : a.same b = true) : Alike a b := by
  have members := (same_iff ha hb).1 same
  have perm := (List.perm_ext_iff_of_nodup ha.nodup hb.nodup).2 members
  refine ⟨perm, CategorySet.ext_has fun category => ?_⟩
  rw [ha.has_present, hb.has_present]
  exact (perm.map Component.category).contains_eq

namespace Alike

variable {a b : Chain} (h : Alike a b)
include h

theorem categories : a.categories = b.categories := h.present

theorem hasCategory (category : Category) : a.hasCategory category = b.hasCategory category := by
  rw [Chain.hasCategory, Chain.hasCategory, h.present]

theorem any (p : Component → Bool) : a.components.any p = b.components.any p := h.perm.any_eq

theorem all (p : Component → Bool) : a.components.all p = b.components.all p := h.perm.all_eq

theorem hasComponent (category : Category) (value : Text) :
    a.hasComponent category value = b.hasComponent category value := by
  rw [Chain.hasComponent, Chain.hasComponent, h.hasCategory, h.any]

theorem hasValue (value : Text) : a.hasValue value = b.hasValue value := h.any _

theorem any_componentsOf (category : Category) (p : Component → Bool) :
    (a.componentsOf category).any p = (b.componentsOf category).any p :=
  (h.perm.filter _).any_eq

theorem size : a.size = b.size := h.perm.length_eq

theorem isEmpty : a.isEmpty = b.isEmpty := h.perm.isEmpty_eq

end Alike

/-- A judgement that answers alike for chains of the same components. -/
def IgnoresOrder (judge : Chain → Bool) : Prop := ∀ ⦃a b : Chain⦄, Alike a b → judge a = judge b

end Chain

open Chain (IgnoresOrder)

/-! ## §2 Rules, shapes and dialects -/

namespace Rule

/-- All questions of a rule but its check are about categories and values. -/
theorem ignoresOrder {rule : Rule} (h : ∀ check ∈ rule.check, IgnoresOrder check) :
    IgnoresOrder rule.validate := by
  intro a b alike
  have values : a.hasValue = b.hasValue := funext alike.hasValue
  have checks : (rule.check.all fun check => check a) = rule.check.all fun check => check b := by
    cases given : rule.check with
    | none => rfl
    | some check => exact h check given alike
  rw [validate, validate, alike.categories, values, checks]

theorem ignoresOrder_withCheck (rule : Rule) {check : Chain → Bool} (h : IgnoresOrder check) :
    IgnoresOrder (rule.withCheck check).validate := by
  refine ignoresOrder fun other given => ?_
  cases given
  exact h

theorem ignoresOrder_of_no_check {rule : Rule} (h : rule.check = none) :
    IgnoresOrder rule.validate := by
  refine ignoresOrder fun check given => ?_
  rw [h] at given
  cases given

theorem all_validate_eq {rules : List Rule} (h : ∀ rule ∈ rules, IgnoresOrder rule.validate)
    {a b : Chain} (alike : a.Alike b) :
    (rules.all fun rule => rule.validate a) = rules.all fun rule => rule.validate b := by
  rw [Bool.eq_iff_iff, List.all_eq_true, List.all_eq_true]
  exact forall₂_congr fun rule member => by rw [h rule member alike]

end Rule

namespace Shape

variable (shape : Shape)

theorem hasRequired_ignoresOrder : IgnoresOrder shape.hasRequired := by
  intro a b alike
  rw [hasRequired, hasRequired, alike.categories]

theorem categoriesAdmitted_ignoresOrder : IgnoresOrder shape.categoriesAdmitted := by
  intro a b alike
  rw [categoriesAdmitted, categoriesAdmitted, alike.categories]

theorem valuesAllowed_ignoresOrder : IgnoresOrder shape.valuesAllowed :=
  fun _ _ alike => alike.all _

end Shape

/-- A pattern is a shape, so its matches are those of the set. -/
theorem Pattern.ignoresOrder (pattern : Pattern) : IgnoresOrder pattern.isMatch := by
  intro a b alike
  rw [isMatch, isMatch, pattern.shape.hasRequired_ignoresOrder alike,
    pattern.shape.categoriesAdmitted_ignoresOrder alike,
    pattern.shape.valuesAllowed_ignoresOrder alike]

/-- A kind of ability is a shape with rules. -/
theorem AbilityType.ignoresOrder {kind : AbilityType}
    (h : ∀ rule ∈ kind.rules, IgnoresOrder rule.validate) : IgnoresOrder kind.isValid := by
  intro a b alike
  rw [isValid, isValid, kind.shape.hasRequired_ignoresOrder alike,
    kind.shape.valuesAllowed_ignoresOrder alike, Rule.all_validate_eq h alike]

namespace Dialect

variable {d : Dialect}

theorem passesRules_ignoresOrder (h : ∀ rule ∈ d.rules, IgnoresOrder rule.validate) :
    IgnoresOrder d.passesRules := fun _ _ alike => Rule.all_validate_eq h alike

/-- Whether a number is missing depends on all effects, not on the first one. -/
theorem lacksNumber_ignoresOrder : IgnoresOrder d.lacksNumber := by
  intro a b alike
  have categories : a.hasCategory = b.hasCategory := funext alike.hasCategory
  rw [lacksNumber, lacksNumber, alike.any_componentsOf, categories]

theorem accepts_ignoresOrder (h : ∀ rule ∈ d.rules, IgnoresOrder rule.validate) :
    IgnoresOrder d.accepts := by
  intro a b alike
  rw [accepts, accepts, alike.isEmpty, alike.categories, lacksNumber_ignoresOrder alike,
    passesRules_ignoresOrder h alike]

end Dialect

/-! ## §3 The built-in games -/

namespace Games

/-- The most frequent check: what has one component has something of another category. -/
theorem ignoresOrder_needs (category needed : Category) (value : Text) :
    IgnoresOrder fun chain => !chain.hasComponent category value || chain.hasCategory needed := by
  intro a b alike
  simp only [alike.hasComponent, alike.hasCategory]

theorem Magic.rules_ignoreOrder : ∀ rule ∈ Magic.rules, IgnoresOrder rule.validate := by
  simp only [Magic.rules, List.forall_mem_cons]
  refine ⟨Rule.ignoresOrder_of_no_check rfl, Rule.ignoresOrder_withCheck _ fun a b alike => ?_,
    Rule.ignoresOrder_withCheck _ fun a b alike => ?_, by simp⟩
  · simp only [alike.hasComponent, alike.hasCategory]
  · simp only [alike.hasComponent, alike.hasCategory]

theorem Hearthstone.rules_ignoreOrder : ∀ rule ∈ Hearthstone.rules, IgnoresOrder rule.validate := by
  simp only [Hearthstone.rules, List.forall_mem_map]
  intro keyword _
  exact Rule.ignoresOrder_withCheck _ (ignoresOrder_needs _ _ _)

theorem Pokemon.rules_ignoreOrder : ∀ rule ∈ Pokemon.rules, IgnoresOrder rule.validate := by
  simp only [Pokemon.rules, List.forall_mem_cons]
  refine ⟨Rule.ignoresOrder_withCheck _ fun a b alike => ?_,
    Rule.ignoresOrder_withCheck _ (ignoresOrder_needs _ _ _), by simp⟩
  rw [alike.hasComponent, alike.hasCategory, alike.hasValue]

theorem Lorcana.rules_ignoreOrder : ∀ rule ∈ Lorcana.rules, IgnoresOrder rule.validate := by
  simp only [Lorcana.rules, List.forall_mem_cons]
  exact ⟨Rule.ignoresOrder_withCheck _ (ignoresOrder_needs _ _ _),
    Rule.ignoresOrder_withCheck _ (ignoresOrder_needs _ _ _), by simp⟩

theorem FleshAndBlood.rules_ignoreOrder :
    ∀ rule ∈ FleshAndBlood.rules, IgnoresOrder rule.validate := by
  simp only [FleshAndBlood.rules, List.forall_mem_cons]
  exact ⟨Rule.ignoresOrder_withCheck _ (ignoresOrder_needs _ _ _),
    Rule.ignoresOrder_withCheck _ (ignoresOrder_needs _ _ _), by simp⟩

/-- The rules of the other games have no checks of their own. -/
theorem rules_ignoreOrder_of_no_check {rules : List Rule}
    (h : ∀ rule ∈ rules, rule.check.isNone = true) :
    ∀ rule ∈ rules, IgnoresOrder rule.validate :=
  fun rule member => Rule.ignoresOrder_of_no_check (Option.isNone_iff_eq_none.1 (h rule member))

theorem rules_ignoreOrder : ∀ game ∈ builtIn, ∀ rule ∈ game.dialect.rules,
    IgnoresOrder rule.validate := by
  simp only [builtIn, List.forall_mem_cons]
  exact ⟨Magic.rules_ignoreOrder, Hearthstone.rules_ignoreOrder, Pokemon.rules_ignoreOrder,
    rules_ignoreOrder_of_no_check (by decide), Lorcana.rules_ignoreOrder,
    rules_ignoreOrder_of_no_check (by decide), FleshAndBlood.rules_ignoreOrder,
    rules_ignoreOrder_of_no_check (by decide), by simp⟩

/-- No kind of ability of a built-in game adds rules to its shape. -/
theorem types_have_no_rules : ∀ game ∈ builtIn, ∀ kind ∈ game.dialect.types, kind.rules = [] := by
  decide

theorem types_ignoreOrder : ∀ game ∈ builtIn, ∀ kind ∈ game.dialect.types,
    IgnoresOrder kind.isValid := by
  intro game member kind listed
  refine AbilityType.ignoresOrder fun rule given => ?_
  rw [types_have_no_rules game member kind listed] at given
  simp at given

theorem passesRules_ignoresOrder : ∀ game ∈ builtIn, IgnoresOrder game.dialect.passesRules :=
  fun game member => Dialect.passesRules_ignoresOrder (rules_ignoreOrder game member)

theorem accepts_ignoresOrder : ∀ game ∈ builtIn, IgnoresOrder game.dialect.accepts :=
  fun game member => Dialect.accepts_ignoresOrder (rules_ignoreOrder game member)

theorem Magic.isValid_ignoresOrder : IgnoresOrder Magic.isValid := by
  intro a b alike
  have rules : dialect.passesRules a = dialect.passesRules b :=
    passesRules_ignoresOrder game (by simp [builtIn]) alike
  have kinds : (dialect.types.any fun kind => kind.isValid a) =
      dialect.types.any fun kind => kind.isValid b := by
    rw [Bool.eq_iff_iff, List.any_eq_true, List.any_eq_true]
    refine exists_congr fun kind => and_congr_right fun listed => ?_
    rw [types_ignoreOrder game (by simp [builtIn]) kind listed alike]
  simp only [isValid, rules, kinds, alike.size, alike.hasCategory]

theorem Hearthstone.isValid_ignoresOrder : IgnoresOrder Hearthstone.isValid := by
  intro a b alike
  have rules : dialect.passesRules a = dialect.passesRules b :=
    passesRules_ignoresOrder game (by simp [builtIn]) alike
  simp only [isValid, rules, alike.isEmpty, alike.hasCategory, alike.hasComponent]

theorem Yugioh.isValid_ignoresOrder : IgnoresOrder Yugioh.isValid := by
  intro a b alike
  have rules : dialect.passesRules a = dialect.passesRules b :=
    passesRules_ignoresOrder game (by simp [builtIn]) alike
  simp only [isValid, rules, alike.hasCategory, Dialect.lacksNumber_ignoresOrder alike]

theorem StarWars.isValid_ignoresOrder : IgnoresOrder StarWars.isValid := by
  intro a b alike
  simp only [isValid, alike.hasCategory, Dialect.lacksNumber_ignoresOrder alike]

theorem isValid_ignoresOrder : ∀ game ∈ builtIn, IgnoresOrder game.isValid := by
  have shared := accepts_ignoresOrder
  simp only [builtIn, List.forall_mem_cons] at shared ⊢
  obtain ⟨-, -, pokemon, -, lorcana, -, fleshAndBlood, snap, -⟩ := shared
  exact ⟨Magic.isValid_ignoresOrder, Hearthstone.isValid_ignoresOrder, pokemon,
    Yugioh.isValid_ignoresOrder, lorcana, StarWars.isValid_ignoresOrder, fleshAndBlood, snap,
    by simp⟩

/-- **No judgement of a built-in game depends on the order of a chain.** Two chains that compare
equal get the same verdict, pass the same rules, are of the same kinds and match the same patterns.
-/
theorem verdicts_eq_of_same : ∀ game ∈ builtIn, ∀ a b : Chain, a.Built → b.Built →
    a.same b = true →
      game.parser.isValid a = game.parser.isValid b ∧
      (∀ rule ∈ game.parser.rules, rule.validate a = rule.validate b) ∧
      (∀ kind ∈ game.parser.types, kind.isValid a = kind.isValid b) ∧
      ∀ pattern ∈ game.parser.patterns, pattern.isMatch a = pattern.isMatch b := by
  intro game member a b builtA builtB same
  have alike := builtA.consistent.alike builtB.consistent same
  refine ⟨isValid_ignoresOrder game member alike, ?_, ?_, ?_⟩
  · intro rule listed
    exact rules_ignoreOrder game member rule listed alike
  · intro kind listed
    exact types_ignoreOrder game member kind listed alike
  · intro pattern _
    exact pattern.ignoresOrder alike

/-- Two effects of which one takes a number, and what they are about. -/
def twoEffects : List Component :=
  [⟨.effect, "destroy", ⟨"destroy", by decide⟩, by decide⟩,
   ⟨.effect, "deal damage", ⟨"deal damage", by decide⟩, by decide⟩,
   ⟨.value, "3", ⟨"3", by decide⟩, by decide⟩,
   ⟨.type, "creature", ⟨"creature", by decide⟩, by decide⟩]

/-- The other way round and with a qualifier, the chain is still accepted and of the same kinds. -/
theorem verdicts_eq_of_same_twoEffects :
    let chain := Chain.ofList twoEffects
    let other := (Chain.ofList twoEffects.reverse).setQualifier (some "once")
    chain.same other = true ∧ chain.components ≠ other.components ∧
      Magic.game.parser.isValid chain = true ∧ Magic.game.parser.isValid other = true ∧
      ∀ kind ∈ Magic.game.parser.types, kind.isValid chain = kind.isValid other := by
  dsimp only
  have same : (Chain.ofList twoEffects).same
      ((Chain.ofList twoEffects.reverse).setQualifier (some "once")) = true := by decide
  have valid : Magic.game.parser.isValid (Chain.ofList twoEffects) = true := by decide
  obtain ⟨verdict, -, kinds, -⟩ := verdicts_eq_of_same Magic.game (by simp [builtIn]) _ _
    (Chain.built_ofList twoEffects) ((Chain.built_ofList _).setQualifier _) same
  exact ⟨same, by decide, valid, verdict ▸ valid, kinds⟩

end Games

end AbilityText

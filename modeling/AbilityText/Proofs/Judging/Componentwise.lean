/-
AbilityText.Proofs.Judging.Componentwise — what the checks on sets of categories say about the
components of a chain.

A chain keeps the set of its categories, and a reached chain stands for what it stores. So a check
on two sets is a statement about components (§1). What the other set holds is known from the calls
that made it, and so each of the five checks holds exactly when the components are as the calls say
(`checks_iff_components`).
-/
import AbilityText.Proofs.Chain.Reached
import AbilityText.Proofs.Judging.Calls

namespace AbilityText

/-- What a partial view of a list shows is there under the one name that it is seen by. -/
theorem mem_filterMap_iff {α β : Type} {view : α → Option β} {x : β} {named : α}
    (h : ∀ a, view a = some x ↔ a = named) {as : List α} : x ∈ as.filterMap view ↔ named ∈ as := by
  simp [List.mem_filterMap, h]

/-! ## §1 Checks on the stored set -/

namespace Chain

variable {chain : Chain}

theorem hasValue_iff {value : Text} :
    chain.hasValue value = true ↔ ∃ c ∈ chain.components, c.text = Text.normalize value := by
  simp [hasValue]

namespace Consistent

variable (h : Consistent chain)
include h

/-- Listed categories are all there when each has a component. -/
theorem includes_ofList_iff (categories : List Category) :
    chain.categories.includes (.ofList categories) = true ↔
      ∀ category ∈ categories, ∃ c ∈ chain.components, c.category = category := by
  rw [chain.includes_ofList, List.all_eq_true]
  exact forall₂_congr fun category _ => h.hasCategory_iff

/-- None of the listed categories is there when no component has one. -/
theorem not_meets_ofList_iff (categories : List Category) :
    chain.categories.meets (.ofList categories) = false ↔
      ∀ c ∈ chain.components, c.category ∉ categories := by
  rw [Bool.eq_false_iff, ne_eq, CategorySet.meets_iff, not_exists]
  constructor
  · intro apart c inChain listed
    refine apart c.category ⟨h.hasCategory_iff.2 ⟨c, inChain, rfl⟩, ?_⟩
    rwa [CategorySet.has_ofList_iff]
  · rintro apart category ⟨present, listed⟩
    obtain ⟨c, inChain, rfl⟩ := h.hasCategory_iff.1 present
    rw [CategorySet.has_ofList_iff] at listed
    exact apart c inChain listed

/-- Nothing is there outside the listed categories when the category of each component is listed.
-/
theorem ofList_includes_iff (categories : List Category) :
    (CategorySet.ofList categories).includes chain.categories = true ↔
      ∀ c ∈ chain.components, c.category ∈ categories := by
  rw [CategorySet.includes_iff]
  constructor
  · intro covers c inChain
    have listed := covers c.category (h.hasCategory_iff.2 ⟨c, inChain, rfl⟩)
    rwa [CategorySet.has_ofList_iff] at listed
  · intro covers category present
    obtain ⟨c, inChain, rfl⟩ := h.hasCategory_iff.1 present
    rw [CategorySet.has_ofList_iff]
    exact covers c inChain

end Consistent

end Chain

/-! ## §2 Rules -/

namespace Rule

/-- What the calls of a rule say about a chain, component by component. Of several checks the last
one counts. -/
structure Satisfied (calls : List Call) (chain : Chain) : Prop where
  required : ∀ category ∈ calls.flatMap Call.required,
    ∃ c ∈ chain.components, c.category = category
  forbidden : ∀ c ∈ chain.components, c.category ∉ calls.flatMap Call.forbidden
  requiredValues : ∀ value ∈ calls.flatMap Call.requiredValues,
    ∃ c ∈ chain.components, c.text = Text.normalize value
  forbiddenValues : ∀ c ∈ chain.components, ∀ value ∈ calls.flatMap Call.forbiddenValues,
    c.text ≠ Text.normalize value
  check : ∀ check ∈ (calls.filterMap Call.check?).getLast?, check chain = true

/-- A rule holds when the components are as its calls say. -/
theorem validate_ofCalls {chain : Chain} (h : chain.Consistent) (name description : Text)
    (calls : List Call) :
    (ofCalls name description calls).validate chain = true ↔ Satisfied calls chain := by
  have check : ∀ given : Option (Chain → Bool),
      (given.all fun check => check chain) = true ↔ ∀ check ∈ given, check chain = true := by
    intro given
    cases given <;> simp
  have forbidden : ∀ values : List Text,
      ((values.map Text.normalize).any chain.hasValue = false ↔
        ∀ c ∈ chain.components, ∀ value ∈ values, c.text ≠ Text.normalize value) := by
    intro values
    simp only [List.any_map, List.any_eq_false, Function.comp_apply, Chain.hasValue_iff,
      Text.normalize_normalize]
    exact ⟨fun apart c inChain value listed same => apart value listed ⟨c, inChain, same⟩,
      fun apart value listed ⟨c, inChain, same⟩ => apart c inChain value listed same⟩
  have required : ∀ values : List Text,
      ((values.map Text.normalize).all chain.hasValue = true ↔
        ∀ value ∈ values, ∃ c ∈ chain.components, c.text = Text.normalize value) := by
    intro values
    simp only [List.all_map, List.all_eq_true, Function.comp_apply, Chain.hasValue_iff,
      Text.normalize_normalize]
  rw [ofCalls, foldl_apply, validate]
  simp only [new, CategorySet.empty_union, List.nil_append, Option.or_none, Bool.and_eq_true,
    Bool.not_eq_true', h.includes_ofList_iff, h.not_meets_ofList_iff, required, forbidden, check]
  constructor
  · rintro ⟨⟨⟨⟨categories, apart⟩, values⟩, foreign⟩, checks⟩
    exact ⟨categories, apart, values, foreign, checks⟩
  · rintro ⟨categories, apart, values, foreign, checks⟩
    exact ⟨⟨⟨⟨categories, apart⟩, values⟩, foreign⟩, checks⟩

end Rule

/-! ## §3 Shapes -/

namespace Shape

/-- A component has an allowed text when one of the restrictions on its category has it, if there
are any. -/
theorem valuesAllowed_iff {shape : Shape} {chain : Chain} :
    shape.valuesAllowed chain = true ↔ ∀ c ∈ chain.components,
      (∃ values, (c.category, values) ∈ shape.restrictions) →
        ∃ values, (c.category, values) ∈ shape.restrictions ∧ c.text ∈ values := by
  rw [valuesAllowed, List.all_eq_true]
  refine forall₂_congr fun c _ => ?_
  have restricted : ∀ values, (c.category, values) ∈ shape.restrictions ↔
      (c.category, values) ∈ shape.restrictions.filter fun r => decide (r.1 = c.category) := by
    simp
  have own : ∀ r ∈ shape.restrictions.filter (fun r => decide (r.1 = c.category)),
      r.1 = c.category := by
    simp
  simp only [allowed?, restricted]
  revert own
  generalize shape.restrictions.filter (fun r => decide (r.1 = c.category)) = found
  intro own
  cases found with
  | nil => simp
  | cons first more =>
    have some : ∃ values, (c.category, values) ∈ first :: more :=
      ⟨first.2, own first List.mem_cons_self ▸ List.mem_cons_self⟩
    simp only [List.contains_iff_mem, List.mem_flatMap]
    constructor
    · rintro ⟨r, member, listed⟩ -
      exact ⟨r.2, own r member ▸ member, listed⟩
    · intro allowed
      obtain ⟨values, member, listed⟩ := allowed some
      exact ⟨_, member, listed⟩

/-- Does some call restrict the category? -/
def Restricts (calls : List Call) (category : Category) : Prop :=
  ∃ values, .allow category values ∈ calls

/-- Does some call allow a text of the category, up to normal form? -/
def Allows (calls : List Call) (category : Category) (text : Text) : Prop :=
  ∃ values, .allow category values ∈ calls ∧ ∃ value ∈ values, text = Text.normalize value

/-- Is every category that the calls require there? -/
def RequiredPresent (calls : List Call) (chain : Chain) : Prop :=
  ∀ category ∈ calls.flatMap Call.required, ∃ c ∈ chain.components, c.category = category

/-- Does every component of a restricted category have a text that a call allows? -/
def TextsAllowed (calls : List Call) (chain : Chain) : Prop :=
  ∀ c ∈ chain.components, Restricts calls c.category → Allows calls c.category c.text

/-- Is the category of every component required or optional by some call? -/
def CategoriesMentioned (calls : List Call) (chain : Chain) : Prop :=
  ∀ c ∈ chain.components,
    c.category ∈ calls.flatMap Call.required ∨ c.category ∈ calls.flatMap Call.optional

section
variable {chain : Chain} (calls : List Call)

theorem hasRequired_foldl (h : chain.Consistent) :
    (calls.foldl Call.apply .empty).hasRequired chain = true ↔ RequiredPresent calls chain := by
  rw [foldl_apply, hasRequired]
  simp only [empty, CategorySet.empty_union]
  exact h.includes_ofList_iff _

theorem valuesAllowed_foldl :
    (calls.foldl Call.apply .empty).valuesAllowed chain = true ↔ TextsAllowed calls chain := by
  have restriction : ∀ category stored, (category, stored) ∈ calls.filterMap Call.restriction? ↔
      ∃ values, .allow category values ∈ calls ∧ values.map Text.normalize = stored := by
    intro category stored
    rw [List.mem_filterMap]
    constructor
    · rintro ⟨call, member, made⟩
      cases call <;> simp [Call.restriction?] at made
      obtain ⟨rfl, rfl⟩ := made
      exact ⟨_, member, rfl⟩
    · rintro ⟨values, member, rfl⟩
      exact ⟨_, member, rfl⟩
  rw [valuesAllowed_iff, foldl_apply]
  simp only [empty, List.nil_append, restriction]
  refine forall₂_congr fun c _ => imp_congr ?_ ?_
  · constructor
    · rintro ⟨_, values, member, -⟩
      exact ⟨values, member⟩
    · rintro ⟨values, member⟩
      exact ⟨_, values, member, rfl⟩
  · constructor
    · rintro ⟨_, ⟨values, member, rfl⟩, listed⟩
      obtain ⟨value, given, same⟩ := List.mem_map.1 listed
      exact ⟨values, member, value, given, same.symm⟩
    · rintro ⟨values, member, value, given, same⟩
      exact ⟨_, ⟨values, member, rfl⟩, List.mem_map.2 ⟨value, given, same.symm⟩⟩

theorem categoriesAdmitted_foldl (h : chain.Consistent) :
    (calls.foldl Call.apply .empty).categoriesAdmitted chain = true ↔
      CategoriesMentioned calls chain := by
  rw [foldl_apply, categoriesAdmitted]
  simp only [empty, CategorySet.empty_union]
  rw [← CategorySet.ofList_append, h.ofList_includes_iff]
  simp only [List.mem_append, CategoriesMentioned]

end

end Shape

/-! ## §4 Kinds of ability and patterns -/

namespace AbilityType

/-- What the calls of a kind of ability say about a chain. -/
structure Recognises (calls : List Call) (chain : Chain) : Prop where
  required : Shape.RequiredPresent (calls.filterMap Call.shape?) chain
  texts : Shape.TextsAllowed (calls.filterMap Call.shape?) chain
  rules : ∀ rule, .withRule rule ∈ calls → rule.validate chain = true

/-- A chain is of a kind when its components are as the calls say. -/
theorem isValid_ofCalls {chain : Chain} (h : chain.Consistent) (name description : Text)
    (calls : List Call) :
    (ofCalls name description calls).isValid chain = true ↔ Recognises calls chain := by
  have rules : ∀ rule, rule ∈ calls.filterMap Call.rule? ↔ .withRule rule ∈ calls :=
    fun rule => mem_filterMap_iff fun call => by cases call <;> simp [Call.rule?, eq_comm]
  obtain ⟨shape, attached⟩ := foldl_apply calls (new name description)
  rw [ofCalls, isValid, shape, attached, Bool.and_eq_true, Bool.and_eq_true]
  simp only [new, List.nil_append, List.all_eq_true, Shape.hasRequired_foldl _ h,
    Shape.valuesAllowed_foldl, rules]
  constructor
  · rintro ⟨⟨required, texts⟩, rules⟩
    exact ⟨required, texts, rules⟩
  · rintro ⟨required, texts, rules⟩
    exact ⟨⟨required, texts⟩, rules⟩

end AbilityType

namespace Pattern

/-- What the calls of a pattern say about a chain. -/
structure Fits (calls : List Shape.Call) (chain : Chain) : Prop where
  required : Shape.RequiredPresent calls chain
  mentioned : Shape.CategoriesMentioned calls chain
  texts : Shape.TextsAllowed calls chain

/-- A chain matches a pattern when its components are as the calls say. -/
theorem isMatch_ofCalls {chain : Chain} (h : chain.Consistent) (name : Text)
    (calls : List Shape.Call) : (ofCalls name calls).isMatch chain = true ↔ Fits calls chain := by
  rw [ofCalls, isMatch, shape_foldl, Bool.and_eq_true, Bool.and_eq_true]
  simp only [new, Shape.hasRequired_foldl _ h, Shape.valuesAllowed_foldl,
    Shape.categoriesAdmitted_foldl _ h]
  constructor
  · rintro ⟨⟨required, mentioned⟩, texts⟩
    exact ⟨required, mentioned, texts⟩
  · rintro ⟨required, mentioned, texts⟩
    exact ⟨⟨required, mentioned⟩, texts⟩

end Pattern

/-! ## §5 Closed lists and common patterns -/

namespace Validator

/-- What the changes of a validator say about a chain. -/
structure Lists (changes : List Change) (chain : Chain) : Prop where
  listed : ∀ c ∈ chain.components, .list c ∈ changes
  required : ∀ category, .require category ∈ changes → ∃ c ∈ chain.components, c.category = category
  mentioned : ∀ c ∈ chain.components,
    .require c.category ∈ changes ∨ .permit c.category ∈ changes

/-- A chain is admitted when its components are as the changes say. -/
theorem admits_afterAll {chain : Chain} (h : chain.Consistent) (changes : List Change) :
    (afterAll changes).admits chain = true ↔ Lists changes chain := by
  have required : ∀ category, category ∈ changes.filterMap Change.required? ↔
      .require category ∈ changes := fun category =>
    mem_filterMap_iff fun change => by cases change <;> simp [Change.required?, eq_comm]
  have optional : ∀ category, category ∈ changes.filterMap Change.optional? ↔
      .permit category ∈ changes := fun category =>
    mem_filterMap_iff fun change => by cases change <;> simp [Change.optional?, eq_comm]
  have listed : ∀ c, c ∈ changes.filterMap Change.listed? ↔ .list c ∈ changes := fun c =>
    mem_filterMap_iff fun change => by cases change <;> simp [Change.listed?, eq_comm]
  obtain ⟨asked, tolerated, closed⟩ := foldl_apply changes standard
  rw [admits, afterAll, asked, tolerated, closed]
  simp only [standard, CategorySet.empty_union, List.append_nil]
  rw [← CategorySet.ofList_append, Bool.and_eq_true, Bool.and_eq_true, h.includes_ofList_iff,
    h.ofList_includes_iff]
  simp only [List.all_eq_true, List.contains_iff_mem, List.mem_reverse, List.mem_append, required,
    optional, listed]
  constructor
  · rintro ⟨⟨listed, required⟩, mentioned⟩
    exact ⟨listed, required, mentioned⟩
  · rintro ⟨listed, required, mentioned⟩
    exact ⟨⟨listed, required⟩, mentioned⟩

end Validator

namespace CommonPattern

/-- The names of the catalogue are distinct, so a look-up finds each entry. -/
theorem find?_eq_some_iff {name : Text} {categories : List Category} :
    find? name = some categories ↔ (name, categories) ∈ catalogue := by
  constructor
  · intro found
    obtain ⟨before, after, same, -⟩ := List.lookup_eq_some_iff.1 found
    rw [same]
    exact List.mem_append_right _ List.mem_cons_self
  · intro member
    have every : ∀ entry ∈ catalogue, find? entry.1 = some entry.2 := by decide
    exact every _ member

theorem matchesNamed_iff {chain : Chain} (h : chain.Consistent) (name : Text) :
    matchesNamed chain name = true ↔ ∃ categories, (name, categories) ∈ catalogue ∧
      ∀ category ∈ categories, ∃ c ∈ chain.components, c.category = category := by
  rw [matchesNamed, Option.any_eq_true]
  simp only [find?_eq_some_iff, h.includes_ofList_iff]

end CommonPattern

/-! ## §6 All checks -/

namespace Chain

/-- **What the checks on sets of categories say.** For every reached chain, a rule, a kind of
ability, a pattern, a closed list and a common pattern each answer as the calls that made them say
of the components, one by one. -/
theorem checks_iff_components {chain : Chain} (h : chain.Reached) :
    (∀ (name description : Text) (calls : List Rule.Call),
      (Rule.ofCalls name description calls).validate chain = true ↔
        Rule.Satisfied calls chain) ∧
    (∀ (name description : Text) (calls : List AbilityType.Call),
      (AbilityType.ofCalls name description calls).isValid chain = true ↔
        AbilityType.Recognises calls chain) ∧
    (∀ (name : Text) (calls : List Shape.Call),
      (Pattern.ofCalls name calls).isMatch chain = true ↔ Pattern.Fits calls chain) ∧
    (∀ changes : List Validator.Change,
      (Validator.afterAll changes).admits chain = true ↔ Validator.Lists changes chain) ∧
    ∀ name : Text, CommonPattern.matchesNamed chain name = true ↔
      ∃ categories, (name, categories) ∈ CommonPattern.catalogue ∧
        ∀ category ∈ categories, ∃ c ∈ chain.components, c.category = category := by
  have consistent := h.built.consistent
  refine ⟨?_, ?_, ?_, ?_, ?_⟩
  · exact Rule.validate_ofCalls consistent
  · exact AbilityType.isValid_ofCalls consistent
  · exact Pattern.isMatch_ofCalls consistent
  · exact Validator.admits_afterAll consistent
  · exact CommonPattern.matchesNamed_iff consistent

/-- A trigger and an effect, united with the effect and a type. -/
def freezingChain : Chain :=
  let freeze : Component := ⟨.effect, "freeze", ⟨"freeze", by decide⟩, by decide⟩
  (ofList [⟨.trigger, "battlecry", ⟨"battlecry", by decide⟩, by decide⟩, freeze]).merge
    (ofList [freeze, ⟨.type, "murloc", ⟨"murloc", by decide⟩, by decide⟩])

/-- Values are given in any case, and the check that is given last counts. -/
def freezingRule : List Rule.Call :=
  [.require [.trigger], .withCheck fun chain => chain.size == 1, .requireValues [" Murloc"],
   .forbid [.cost, .value], .forbidValues ["Spell"], .withCheck fun chain => chain.size == 3]

/-- The components fit a rule, a kind and a closed list; a pattern does not mention the type, and
there is no value for the common pattern. -/
theorem checks_iff_components_freezing :
    let listed := freezingChain.components.map Validator.Change.list
    freezingChain.Reached ∧ Rule.Satisfied freezingRule freezingChain ∧
      AbilityType.Recognises
        [.shape (.allow .type ["MURLOC"]), .withRule (.ofCalls [] [] freezingRule),
          .shape (.allow .type ["hero"]), .shape (.require [.effect])] freezingChain ∧
      ¬Pattern.Fits [.require [.trigger], .permit [.effect, .value]] freezingChain ∧
      Validator.Lists (.require .effect :: .permit .type :: .permit .trigger :: listed)
        freezingChain ∧
      ¬∃ categories, (("draw" : Text), categories) ∈ CommonPattern.catalogue ∧
        ∀ category ∈ categories, ∃ c ∈ freezingChain.components, c.category = category := by
  dsimp only
  have reached : freezingChain.Reached := (Reached.ofList _).merge (.ofList _)
  obtain ⟨rule, kind, pattern, list, common⟩ := checks_iff_components reached
  refine ⟨reached, ?_, ?_, ?_, ?_, ?_⟩
  · exact (rule [] [] freezingRule).1 (by decide)
  · exact (kind [] [] _).1 (by decide)
  · exact fun fits => absurd ((pattern [] _).2 fits) (by decide)
  · exact (list _).1 (by decide)
  · exact fun there => absurd ((common "draw").2 there) (by decide)

end Chain

end AbilityText

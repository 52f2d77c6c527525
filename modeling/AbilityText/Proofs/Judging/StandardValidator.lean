/-
AbilityText.Proofs.Judging.StandardValidator — where the order of a chain decides what the standard
validator finds.

Its rule on values looks at the first effect of a chain, its rule on targets at the first direction,
and its checks at the first value. The rest of a chain counts as a set only. So two chains of the
same components fare alike exactly where those three first components decide alike, or are not asked
for (`validate_eq_and_errors_eq_iff`); a chain with one effect, one direction and one value at most
is judged without regard to its order. Two effects of which one takes a value are judged by the one
that comes first.
-/
import Mathlib.Data.List.Forall2
import AbilityText.Proofs.Judging.Order
import AbilityText.Validator

namespace AbilityText

/-- A rule that asks for no category and no value is its check. -/
theorem Rule.validate_new_withCheck (name description : Text) (check : Chain → Bool)
    (chain : Chain) :
    ((Rule.new name description).withCheck check).validate chain = check chain := by
  have asksNothing : chain.categories.includes .empty = true := by
    simp [CategorySet.includes_iff]
  have forbidsNothing : chain.categories.meets .empty = false := by
    rw [Bool.eq_false_iff, ne_eq, CategorySet.meets_iff]
    simp
  simp [validate, withCheck, new, asksNothing, forbidsNothing]

namespace Chain

/-- A component that is alone in its category comes first in any order. -/
theorem Alike.textOf?_eq {a b : Chain} (alike : Alike a b) {category : Category}
    (alone : (a.componentsOf category).length ≤ 1) : a.textOf? category = b.textOf? category := by
  have perm : (a.componentsOf category).Perm (b.componentsOf category) := alike.perm.filter _
  have same : a.componentsOf category = b.componentsOf category := by
    cases left : a.componentsOf category with
    | nil => exact (List.nil_perm.1 (left ▸ perm)).symm
    | cons c rest =>
      obtain rfl : rest = [] := by
        rw [left, List.length_cons] at alone
        exact List.length_eq_zero_iff.1 (by omega)
      exact List.singleton_perm.1 (left ▸ perm)
  rw [textOf?, firstOf?, same]
  rfl

end Chain

namespace Validator

/-! ## §1 A verdict and its reasons -/

/-- A validator accepts the chains in which it finds no error. -/
theorem validate_eq_isEmpty_errors (v : Validator) (chain : Chain) :
    v.validate chain = (v.errors chain).isEmpty := by
  rw [Bool.eq_iff_iff, List.isEmpty_iff]
  simp only [validate, errors, Bool.and_eq_true, List.append_eq_nil_iff, List.map_eq_nil_iff,
    List.filter_eq_nil_iff, List.all_eq_true, Bool.or_eq_true, Bool.not_eq_true', not_and,
    Bool.not_eq_false]
  refine and_congr Iff.rfl (forall₂_congr fun entry _ => ?_)
  cases concerns entry.1 chain <;> simp

/-! ## §2 What the standard validator finds -/

/-- Does the first effect ask for a value? -/
def firstEffectTakesValue (chain : Chain) : Bool :=
  (chain.textOf? .effect).any numericEffects.contains

/-- Is the first direction a target? -/
def firstDirectionTargets (chain : Chain) : Bool :=
  chain.textOf? .direction == some ("target" : Text)

/-- What can be wrong with a chain, in the order in which it is reported. -/
inductive Fault
  | missingValue
  | missingType
  | missingEffect
  | damageValue
  | drawValue
deriving DecidableEq

namespace Fault

def all : List Fault := [missingValue, missingType, missingEffect, damageValue, drawValue]

theorem mem_all (fault : Fault) : fault ∈ all := by cases fault <;> decide

/-- How a fault is reported. -/
def message : Fault → Text
  | missingValue => "Numerical effects must have a value"
  | missingType => "Target direction must specify a valid type"
  | missingEffect => "Trigger abilities must have an effect"
  | damageValue => "Invalid damage pattern"
  | drawValue => "Invalid draw pattern"

theorem message_injective : Function.Injective message := by
  intro a b
  cases a <;> cases b <;> decide

/-- Is the fault there? -/
def occurs (chain : Chain) : Fault → Bool
  | missingValue => firstEffectTakesValue chain && !chain.hasCategory .value
  | missingType => firstDirectionTargets chain && !chain.hasCategory .type
  | missingEffect => chain.hasCategory .trigger && !chain.hasCategory .effect
  | damageValue =>
    chain.categories.includes (.ofList [.effect, .value, .direction, .type]) &&
      !hasPositiveValue chain
  | drawValue => chain.categories.includes (.ofList [.effect, .value]) && !hasPositiveValue chain

end Fault

/-- A check finds a fault when it fails exactly where the fault is and reports it so. -/
def Finds (chain : Chain) {Check : Type} (fails : Check → Bool) (report : Check → Text)
    (check : Check) (fault : Fault) : Prop :=
  fails check = fault.occurs chain ∧ report check = fault.message

/-- What a list of checks reports is read off the faults they find. -/
theorem reported_eq {chain : Chain} {Check : Type} {fails : Check → Bool} {report : Check → Text}
    {checks : List Check} {faults : List Fault}
    (found : List.Forall₂ (Finds chain fails report) checks faults) :
    (checks.filter fails).map report = (faults.filter (Fault.occurs chain)).map Fault.message := by
  have kept : List.Forall₂ (Finds chain fails report) (checks.filter fails)
      (faults.filter (Fault.occurs chain)) :=
    List.rel_filter (fun _ _ finds => Bool.eq_iff_iff.1 finds.1) found
  rw [← List.forall₂_eq_eq_eq, List.forall₂_map_left_iff, List.forall₂_map_right_iff]
  exact kept.imp fun _ _ finds => finds.2

/-- A rule that misses something where its check asks for it. -/
theorem rule_finds {chain : Chain} {name : Text} {fault : Fault} {asks has : Chain → Bool}
    (missing : (asks chain && !has chain) = fault.occurs chain) :
    Finds chain (fun rule => !rule.validate chain) Rule.description
      ((Rule.new name fault.message).withCheck fun chain => !asks chain || has chain) fault := by
  refine ⟨?_, rfl⟩
  rw [← missing]
  simp only [Rule.validate_new_withCheck, Bool.not_or, Bool.not_not]

/-- The rules find what a chain misses. -/
theorem standardRules_find (chain : Chain) :
    List.Forall₂ (Finds chain (fun rule => !rule.validate chain) Rule.description) standardRules
      [.missingValue, .missingType, .missingEffect] :=
  .cons (rule_finds rfl) (.cons (rule_finds rfl) (.cons (rule_finds rfl) .nil))

/-- The checks find the values that are no positive numbers. -/
theorem standardChecks_find (chain : Chain) :
    List.Forall₂ (Finds chain (fun entry => concerns entry.1 chain && !entry.2 chain)
        fun entry => ("Invalid " : Text) ++ entry.1 ++ " pattern") standard.checks.entries
      [.damageValue, .drawValue] :=
  .cons ⟨rfl, rfl⟩ (.cons ⟨rfl, rfl⟩ .nil)

/-- The errors of the standard validator are the messages of the faults. -/
theorem errors_standard (chain : Chain) :
    standard.errors chain = (Fault.all.filter (Fault.occurs chain)).map Fault.message := by
  have parts : Fault.all =
      [.missingValue, .missingType, .missingEffect] ++ [.damageValue, .drawValue] := rfl
  rw [parts, List.filter_append, List.map_append, ← reported_eq (standardRules_find chain),
    ← reported_eq (standardChecks_find chain)]
  rfl

/-- The same errors are the same faults. -/
theorem errors_standard_eq_iff (a b : Chain) : standard.errors a = standard.errors b ↔
    ∀ fault : Fault, fault.occurs a = fault.occurs b := by
  rw [errors_standard, errors_standard, List.map_inj_right Fault.message_injective]
  constructor
  · intro found fault
    rw [Bool.eq_iff_iff]
    simpa [Fault.mem_all] using congrArg (fault ∈ ·) found
  · intro alike
    rw [show Fault.occurs a = Fault.occurs b from funext alike]

/-! ## §3 The components that come first -/

/-- The first effects, directions and values of two chains decide alike, wherever the answer
depends on them: an effect where there is no value, a direction where there is no type, a value
where there is an effect. -/
structure FirstsAgree (a b : Chain) : Prop where
  effect : a.hasCategory .value = false → firstEffectTakesValue a = firstEffectTakesValue b
  direction : a.hasCategory .type = false → firstDirectionTargets a = firstDirectionTargets b
  value : a.hasCategory .effect = true → a.hasCategory .value = true →
    hasPositiveValue a = hasPositiveValue b

section
variable {a b : Chain} (alike : a.Alike b)
include alike

/-- Faults of the same components differ by the first ones only. -/
theorem occurs_eq_iff_firstsAgree :
    (∀ fault : Fault, fault.occurs a = fault.occurs b) ↔ FirstsAgree a b := by
  constructor
  · intro found
    refine ⟨fun missing => ?_, fun missing => ?_, fun effect value => ?_⟩
    · simpa [Fault.occurs, ← alike.hasCategory, missing] using found .missingValue
    · simpa [Fault.occurs, ← alike.hasCategory, missing] using found .missingType
    · simpa [Fault.occurs, Chain.includes_ofList, ← alike.hasCategory, effect, value]
        using found .drawValue
  · intro agree fault
    have categories : b.hasCategory = a.hasCategory :=
      funext fun category => (alike.hasCategory category).symm
    have numbers : ∀ asked : List Category, .effect ∈ asked → .value ∈ asked →
        (asked.all a.hasCategory && !hasPositiveValue a) =
          (asked.all a.hasCategory && !hasPositiveValue b) := by
      intro asked effect value
      cases present : asked.all a.hasCategory with
      | false => rfl
      | true =>
        rw [List.all_eq_true] at present
        rw [agree.value (present _ effect) (present _ value)]
    cases fault with
    | missingValue =>
      rw [Fault.occurs, Fault.occurs, categories]
      cases present : a.hasCategory .value with
      | false => rw [agree.effect present]
      | true => simp
    | missingType =>
      rw [Fault.occurs, Fault.occurs, categories]
      cases present : a.hasCategory .type with
      | false => rw [agree.direction present]
      | true => simp
    | missingEffect => rw [Fault.occurs, Fault.occurs, categories]
    | damageValue =>
      rw [Fault.occurs, Fault.occurs, Chain.includes_ofList, Chain.includes_ofList, categories]
      exact numbers _ (by simp) (by simp)
    | drawValue =>
      rw [Fault.occurs, Fault.occurs, Chain.includes_ofList, Chain.includes_ofList, categories]
      exact numbers _ (by simp) (by simp)

/-- Where there is one component of a category at most, it comes first in any order. -/
theorem firstsAgree_of_alone
    (alone : ∀ category ∈ ([.effect, .direction, .value] : List Category),
      (a.componentsOf category).length ≤ 1) : FirstsAgree a b := by
  have first : ∀ category ∈ ([.effect, .direction, .value] : List Category),
      a.textOf? category = b.textOf? category :=
    fun category listed => alike.textOf?_eq (alone category listed)
  refine ⟨fun _ => ?_, fun _ => ?_, fun _ _ => ?_⟩
  · rw [firstEffectTakesValue, first .effect (by simp)]
    rfl
  · rw [firstDirectionTargets, first .direction (by simp)]
    rfl
  · rw [hasPositiveValue, first .value (by simp)]
    rfl

end

/-- **The order of a chain reaches the standard validator through the first components only.** Two
chains that compare equal get the same verdict and the same errors exactly when their first effects,
directions and values decide alike. They do when there is one effect, one direction and one value at
most. -/
theorem validate_eq_and_errors_eq_iff {a b : Chain} (builtA : a.Built) (builtB : b.Built)
    (same : a.same b = true) :
    (standard.validate a = standard.validate b ∧ standard.errors a = standard.errors b ↔
      FirstsAgree a b) ∧
    ((∀ category ∈ ([.effect, .direction, .value] : List Category),
      (a.componentsOf category).length ≤ 1) → FirstsAgree a b) := by
  have alike := builtA.consistent.alike builtB.consistent same
  have errors : standard.errors a = standard.errors b ↔ FirstsAgree a b :=
    (errors_standard_eq_iff a b).trans (occurs_eq_iff_firstsAgree alike)
  refine ⟨⟨fun judged => errors.1 judged.2, fun agree => ⟨?_, errors.2 agree⟩⟩,
    firstsAgree_of_alone alike⟩
  rw [validate_eq_isEmpty_errors, validate_eq_isEmpty_errors, errors.2 agree]

/-- The components with these categories and texts. -/
def componentsFrom (fragments : List (Category × Text)) : List Component :=
  fragments.filterMap fun fragment => (Component.new fragment.1 fragment.2).toOption

/-- An effect that takes a value, its value and its target. -/
def targetedDamage : List Component :=
  componentsFrom [(.effect, "deal"), (.value, "3"), (.direction, "target"), (.type, "creature")]

/-- With one component of each category the reversed chain fares as the chain does. -/
theorem validate_eq_and_errors_eq_iff_targetedDamage :
    let chain := Chain.ofList targetedDamage
    let other := Chain.ofList targetedDamage.reverse
    chain.components ≠ other.components ∧ chain.same other = true ∧
      standard.validate chain = true ∧ standard.validate other = true ∧
      standard.errors chain = standard.errors other := by
  dsimp only
  have same : (Chain.ofList targetedDamage).same (Chain.ofList targetedDamage.reverse) = true := by
    decide
  have valid : standard.validate (Chain.ofList targetedDamage) = true := by decide
  obtain ⟨judged, alone⟩ := validate_eq_and_errors_eq_iff
    (Chain.built_ofList targetedDamage) (Chain.built_ofList _) same
  obtain ⟨verdict, errors⟩ := judged.2 (alone (by decide))
  exact ⟨by decide, same, valid, verdict ▸ valid, errors⟩

/-- Two effects of which one takes a value, and no value. -/
def numberlessEffects : List Component :=
  componentsFrom [(.effect, "destroy"), (.effect, "deal")]

/-- The order of two effects decides whether the missing value is an error. -/
theorem not_validate_eq_of_reversed_effects :
    ¬ ∀ a b : Chain, a.Built → b.Built → a.same b = true →
      standard.validate a = standard.validate b ∧ standard.errors a = standard.errors b := by
  intro alike
  obtain ⟨verdict, -⟩ := alike (.ofList numberlessEffects) (.ofList numberlessEffects.reverse)
    (Chain.built_ofList _) (Chain.built_ofList _) (by decide)
  exact absurd verdict (by decide)

end Validator

end AbilityText

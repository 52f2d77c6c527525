/-
AbilityText.Rule — declarative rules that a chain passes or fails.

A rule asks for categories and values that must be present or absent, and may add a check of its
own. Values are looked for in components of every category.
-/
import AbilityText.Chain

namespace AbilityText

/-- A named condition on chains. -/
structure Rule where
  name : Text
  description : Text
  required : CategorySet
  forbidden : CategorySet
  requiredValues : List Text
  forbiddenValues : List Text
  check : Option (Chain → Bool)

namespace Rule

/-- The rule that every chain passes. -/
def new (name description : Text) : Rule :=
  { name, description, required := .empty, forbidden := .empty, requiredValues := []
    forbiddenValues := [], check := none }

/-- The rule that also requires these categories. -/
def require (categories : List Category) (rule : Rule) : Rule :=
  { rule with required := rule.required.union (.ofList categories) }

/-- The rule that also forbids these categories. -/
def forbid (categories : List Category) (rule : Rule) : Rule :=
  { rule with forbidden := rule.forbidden.union (.ofList categories) }

/-- The rule that also requires these values. -/
def requireValues (values : List Text) (rule : Rule) : Rule :=
  { rule with requiredValues := rule.requiredValues ++ values.map Text.normalize }

/-- The rule that also forbids these values. -/
def forbidValues (values : List Text) (rule : Rule) : Rule :=
  { rule with forbiddenValues := rule.forbiddenValues ++ values.map Text.normalize }

/-- The rule with a check of its own, in place of an earlier one. -/
def withCheck (check : Chain → Bool) (rule : Rule) : Rule := { rule with check := some check }

/-- Does the chain pass the rule? -/
def validate (rule : Rule) (chain : Chain) : Bool :=
  chain.categories.includes rule.required &&
  !chain.categories.meets rule.forbidden &&
  rule.requiredValues.all chain.hasValue &&
  !rule.forbiddenValues.any chain.hasValue &&
  rule.check.all fun check => check chain

end Rule

end AbilityText

/-
AbilityText.Validator — judging chains without regard to a game.

Three judgements stand side by side: general rules with checks for particular patterns, comparison
with abilities known to be good, and a closed list of admitted components.
-/
import AbilityText.CommonPattern
import AbilityText.Registry

namespace AbilityText

/-- A validator. `checks` holds the check of each pattern name, `known` the chains of abilities
known to be good; the last three fields are the closed list. -/
structure Validator where
  rules : List Rule
  checks : Catalog (Chain → Bool)
  known : Catalog (List Chain)
  required : CategorySet
  optional : CategorySet
  listed : List Component

namespace Validator

/-! ## The standard validator -/

/-- The effects that need a value. -/
def numericEffects : List Text := ["deal", "draw", "gain", "lose", "add", "remove"]

/-- The number that a text spells, when it is positive and fits into 64 bits with a sign. -/
def positiveInteger? (t : Text) : Option Nat :=
  (Text.unsigned? 0x8000000000000000 t).filter fun n => 0 < n

/-- Is the first value a positive number? -/
def hasPositiveValue (chain : Chain) : Bool :=
  (chain.textOf? .value).any fun value => (positiveInteger? value).isSome

/-- The rules that every validator starts with. -/
def standardRules : List Rule :=
  [Rule.new "Effect Value Rule" "Numerical effects must have a value" |>.withCheck fun chain =>
     !(chain.textOf? .effect).any numericEffects.contains || chain.hasCategory .value,
   Rule.new "Target Type Rule" "Target direction must specify a valid type"
     |>.withCheck fun chain =>
       !(chain.textOf? .direction == some ("target" : Text)) || chain.hasCategory .type,
   Rule.new "Trigger Effect Rule" "Trigger abilities must have an effect" |>.withCheck fun chain =>
     !chain.hasCategory .trigger || chain.hasCategory .effect]

/-- The validator that every one starts from. -/
def standard : Validator :=
  { rules := standardRules
    checks := .ofList [("damage", hasPositiveValue), ("draw", hasPositiveValue)]
    known := .empty
    required := .empty
    optional := .empty
    listed := [] }

/-! ## Rules and checks -/

/-- The validator with one more rule. -/
def addRule (rule : Rule) (v : Validator) : Validator := { v with rules := v.rules ++ [rule] }

/-- The validator with a check for a pattern, in place of an earlier one. -/
def addCheck (pattern : Text) (check : Chain → Bool) (v : Validator) : Validator :=
  { v with checks := v.checks.insert pattern check }

/-- Does the check of a pattern concern the chain? The name of a common pattern asks for that
pattern, any other name for an effect of that text. -/
def concerns (pattern : Text) (chain : Chain) : Bool :=
  if (CommonPattern.find? pattern).isSome then CommonPattern.matchesNamed chain pattern
  else chain.hasComponent .effect pattern

/-- Does the chain pass every rule and every check that concerns it? -/
def validate (v : Validator) (chain : Chain) : Bool :=
  (v.rules.all fun rule => rule.validate chain) &&
    v.checks.entries.all fun entry => !concerns entry.1 chain || entry.2 chain

/-- The descriptions of the rules that fail, then a message for each check that fails. -/
def errors (v : Validator) (chain : Chain) : List Text :=
  let failing := v.rules.filter fun rule => !rule.validate chain
  let failed := v.checks.entries.filter fun entry => concerns entry.1 chain && !entry.2 chain
  failing.map Rule.description ++
    failed.map fun entry => ("Invalid " : Text) ++ entry.1 ++ " pattern"

/-! ## Known abilities -/

/-- The validator that also knows the chains of an ability text. -/
def addKnown (text : Text) (chains : List Chain) (v : Validator) : Validator :=
  { v with known := v.known.insert text chains }

/-- Is the chain of the text one of the known chains? -/
def isKnown (v : Validator) (registry : Registry) (text game : Text) :
    Except RegistryError Bool := do
  let parser ← registry.get game
  let chain := parser.parse text
  return v.known.values.flatten.any fun known => known.same chain

/-! ## The closed list -/

/-- The validator that also requires a category. -/
def requireCategory (category : Category) (v : Validator) : Validator :=
  { v with required := v.required.insert category }

/-- The validator that also admits a category. -/
def permitCategory (category : Category) (v : Validator) : Validator :=
  { v with optional := v.optional.insert category }

/-- The validator that also lists a component. -/
def list (component : Component) (v : Validator) : Validator :=
  { v with listed := component :: v.listed }

/-- Is every component listed, every required category present, and none present that is neither
required nor optional? -/
def admits (v : Validator) (chain : Chain) : Bool :=
  chain.components.all v.listed.contains && chain.categories.includes v.required &&
    (v.required.union v.optional).includes chain.categories

end Validator

end AbilityText

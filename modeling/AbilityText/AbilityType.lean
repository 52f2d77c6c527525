/-
AbilityText.AbilityType — named kinds of ability, each recognised by a shape and rules and rendered
by a template, and the closed patterns that only recognise.
-/
import AbilityText.Rule
import AbilityText.Shape
import AbilityText.Template

namespace AbilityText

/-- The text of a placeholder for a chain: the first component of the category that it names, or the
plural ending after the first value. -/
def placeholderText (chain : Chain) (name : Text) : Option Text :=
  if name = Template.pluralName then some (Template.pluralEnding (chain.textOf? .value))
  else (Category.ofTag? name).bind chain.textOf?

/-- A kind of ability. A blank template means that the kind has no text of its own. -/
structure AbilityType where
  name : Text
  description : Text
  shape : Shape
  rules : List Rule
  template : Text

namespace AbilityType

/-- A kind of ability without conditions and without a template. -/
def new (name description : Text) : AbilityType := ⟨name, description, .empty, [], []⟩

/-- The kind that also requires these categories. -/
def require (categories : List Category) (kind : AbilityType) : AbilityType :=
  { kind with shape := kind.shape.require categories }

/-- The kind that also lists these categories as optional. -/
def permit (categories : List Category) (kind : AbilityType) : AbilityType :=
  { kind with shape := kind.shape.permit categories }

/-- The kind in which the category may also have these values. -/
def allow (category : Category) (values : List Text) (kind : AbilityType) : AbilityType :=
  { kind with shape := kind.shape.allow category values }

/-- The kind with one more rule. -/
def withRule (rule : Rule) (kind : AbilityType) : AbilityType :=
  { kind with rules := kind.rules ++ [rule] }

/-- The kind with a template. -/
def withTemplate (template : Text) (kind : AbilityType) : AbilityType := { kind with template }

/-- Is the chain an ability of this kind? Categories outside the shape are tolerated. -/
def isValid (kind : AbilityType) (chain : Chain) : Bool :=
  kind.shape.hasRequired chain && kind.shape.valuesAllowed chain &&
    kind.rules.all fun rule => rule.validate chain

/-- The chain in the words of the template, when there is one. -/
def render (kind : AbilityType) (chain : Chain) : Option Text :=
  if Text.isBlank kind.template then none
  else some (Template.render kind.template (placeholderText chain))

end AbilityType

/-- A closed shape: a component of a category that it does not mention rejects the chain. -/
structure Pattern where
  name : Text
  shape : Shape
deriving DecidableEq

namespace Pattern

/-- The pattern that only the empty chain matches. -/
def new (name : Text) : Pattern := ⟨name, .empty⟩

/-- The pattern that also requires these categories. -/
def require (categories : List Category) (pattern : Pattern) : Pattern :=
  { pattern with shape := pattern.shape.require categories }

/-- The pattern that also admits these categories. -/
def permit (categories : List Category) (pattern : Pattern) : Pattern :=
  { pattern with shape := pattern.shape.permit categories }

/-- The pattern in which the category may also have these values. -/
def allow (category : Category) (values : List Text) (pattern : Pattern) : Pattern :=
  { pattern with shape := pattern.shape.allow category values }

/-- Does the chain match the pattern? -/
def isMatch (pattern : Pattern) (chain : Chain) : Bool :=
  pattern.shape.hasRequired chain && pattern.shape.categoriesAdmitted chain &&
    pattern.shape.valuesAllowed chain

end Pattern

end AbilityText

/-
AbilityText.Shape — shapes of chains: the categories that are required, those that are optional, and
the values to which a category is restricted.
-/
import AbilityText.Chain

namespace AbilityText

/-- A shape of chains. A category may be restricted more than once; its values add up. -/
structure Shape where
  required : CategorySet
  optional : CategorySet
  restrictions : List (Category × List Text)
deriving DecidableEq

namespace Shape

/-- The shape that asks for nothing. -/
def empty : Shape := ⟨.empty, .empty, []⟩

/-- The shape that also requires these categories. -/
def require (categories : List Category) (shape : Shape) : Shape :=
  { shape with required := shape.required.union (.ofList categories) }

/-- The shape that also admits these categories. -/
def permit (categories : List Category) (shape : Shape) : Shape :=
  { shape with optional := shape.optional.union (.ofList categories) }

/-- The shape in which the category may also have these values. -/
def allow (category : Category) (values : List Text) (shape : Shape) : Shape :=
  { shape with
    restrictions := shape.restrictions ++ [(category, values.map Text.normalize)] }

/-- The values to which a category is restricted, when it is. -/
def allowed? (shape : Shape) (category : Category) : Option (List Text) :=
  match shape.restrictions.filter fun r => decide (r.1 = category) with
  | [] => none
  | found => some (found.flatMap Prod.snd)

/-- Are the required categories all present? -/
def hasRequired (shape : Shape) (chain : Chain) : Bool := chain.categories.includes shape.required

/-- Does every component of a restricted category have one of its values? -/
def valuesAllowed (shape : Shape) (chain : Chain) : Bool :=
  chain.components.all fun c =>
    match shape.allowed? c.category with
    | some values => values.contains c.text
    | none => true

/-- Is every category present either required or optional? -/
def categoriesAdmitted (shape : Shape) (chain : Chain) : Bool :=
  (shape.required.union shape.optional).includes chain.categories

end Shape

end AbilityText

/-
AbilityText.CommonPattern — named shapes that abilities of every game share.

They are looser than patterns: a chain matches when every listed category is present, whatever else
it carries.
-/
import AbilityText.Chain

namespace AbilityText.CommonPattern

/-- The common shapes in the order in which they are tried. -/
def catalogue : List (Text × List Category) :=
  [("damage", [.effect, .value, .direction, .type]),
   ("draw", [.effect, .value]),
   ("gain_life", [.effect, .value]),
   ("destroy", [.effect, .direction, .type]),
   ("counter", [.effect, .direction, .type]),
   ("trigger", [.trigger, .type, .state, .effect]),
   ("condition", [.condition, .direction, .type, .state, .effect])]

/-- The names of the common shapes. -/
def names : List Text := catalogue.map Prod.fst

/-- The categories of a common shape, as listed. -/
def find? (name : Text) : Option (List Category) := catalogue.lookup name

/-- Does the chain match the common shape of this name? No chain matches an unknown name. -/
def matchesNamed (chain : Chain) (name : Text) : Bool :=
  (find? name).any fun categories => chain.categories.includes (.ofList categories)

/-- The names of the common shapes that the chain matches. -/
def matching (chain : Chain) : List Text :=
  (catalogue.filter fun entry => chain.categories.includes (.ofList entry.2)).map Prod.fst

end AbilityText.CommonPattern

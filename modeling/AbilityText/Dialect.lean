/-
AbilityText.Dialect — what a game tells the classifier: its phrases, the order in which they are
tried, when a number counts as a value, and the rules and kinds of ability by which chains are
judged and rendered.
-/
import AbilityText.AbilityType
import AbilityText.Clause
import AbilityText.Vocabulary

namespace AbilityText

/-- One step of classification: a phrase table, or a number. -/
inductive Step
  | table (category : Category)
  | number
deriving DecidableEq, Repr

/-- When a number becomes a component, and of which category. Numbers are looked for only after one
of `effects`; a following unit word gives the number a category of its own. -/
structure NumberPolicy where
  effects : List Text := []
  min : Nat := 1
  max : Nat := 15
  allowX : Bool := true
  category : Category := .value
  units : List (Text × Category) := []
deriving DecidableEq

namespace NumberPolicy

/-- Is the word "x" or a number that the policy takes? A number fits into 32 bits, and a plus may
stand in front of it. -/
def accepts (policy : NumberPolicy) (word : Text) : Bool :=
  if word = ("x" : Text) then policy.allowX
  else (Text.unsigned? UInt32.size word).any fun n => policy.min ≤ n && n ≤ policy.max

/-- The category of a number that stands before `next`: that of the first unit which is the next
word or one of its singular forms. -/
def categoryBefore (policy : NumberPolicy) (next : Option Text) : Category :=
  match next with
  | none => policy.category
  | some word =>
    ((policy.units.find? fun unit =>
      unit.1 == word || (Clause.singulars word).contains unit.1).map Prod.snd).getD
      policy.category

end NumberPolicy

/-- Which types and directions go with which effects. The `spellTypes` belong to the `spellEffects`
and to no other effect; "random" needs one of `randomEffects`, and "another" a type of
`anotherTypes` before it. -/
structure Gating where
  spellEffects : List Text
  spellTypes : List Text
  randomEffects : List Text
  anotherTypes : List Text
deriving DecidableEq

/-- The data of a game. A text may open with one of `openings` and a colon; a clause that opens with
one of `captures` is one component; the word after one of `subjectMarkers` is tried as a type before
anything else. Phrases have at most `window` words, and a chain of fewer than `minComponents`
components counts as nothing. -/
structure Dialect where
  key : Text
  name : Text
  vocabulary : Vocabulary := .empty
  order : List Step := []
  numeric : NumberPolicy := {}
  gating : Option Gating := none
  openings : List (Text × Category) := []
  captures : List (Text × Category) := []
  subjectMarkers : List Text := []
  window : Nat := 4
  minComponents : Nat := 1
  rules : List Rule := []
  types : List AbilityType := []
  patterns : List Pattern := []

namespace Dialect

/-! ## Judging -/

/-- Does the chain pass every rule of the game? -/
def passesRules (d : Dialect) (chain : Chain) : Bool := d.rules.all fun rule => rule.validate chain

/-- Does the effect take a number? -/
def takesNumber (d : Dialect) (effect : Text) : Bool := d.numeric.effects.contains effect

/-- The categories that a number may get. -/
def numberCategories (d : Dialect) : List Category :=
  d.numeric.category :: d.numeric.units.map Prod.snd

/-- Does some effect of the chain take a number, and is no number there? -/
def lacksNumber (d : Dialect) (chain : Chain) : Bool :=
  ((chain.componentsOf .effect).any fun c => d.takesNumber c.text) &&
    !d.numberCategories.any chain.hasCategory

/-- The verdict of a game without judgement of its own: there is an effect or a trigger, no number
is missing, and every rule passes. -/
def accepts (d : Dialect) (chain : Chain) : Bool :=
  !chain.isEmpty && chain.categories.meets (.ofList [.effect, .trigger]) &&
    !d.lacksNumber chain && d.passesRules chain

/-! ## Rendering -/

/-- The category that a step fills. -/
def stepCategory (d : Dialect) : Step → Category
  | .table category => category
  | .number => d.numeric.category

/-- The categories in the order of the steps, each once, with the type first. -/
def stepOrder (d : Dialect) : List Category :=
  d.order.foldl
    (fun order step =>
      let category := d.stepCategory step
      if order.contains category then order else order ++ [category])
    [.type]

/-- The text of a game without rendering of its own: the template of the first kind of ability that
the chain is and that has one, or else the components in table order. -/
def describe (d : Dialect) (chain : Chain) : Text :=
  ((d.types.filter fun kind => kind.isValid chain).findSome? fun kind => kind.render chain).getD
    (chain.renderBy d.stepOrder)

/-! ## Listing -/

/-- Every category that classification may yield. -/
def categories (d : Dialect) : CategorySet :=
  let numbers := if d.order.contains .number then CategorySet.ofList d.numberCategories else .empty
  d.vocabulary.categories.union numbers
    |>.union (.ofList (d.openings.map Prod.snd))
    |>.union (.ofList (d.captures.map Prod.snd))

/-- The texts that a component of the category may have: the values of the vocabulary, then the
openings of that category. -/
def components (d : Dialect) (category : Category) : List Text :=
  let openings := (d.openings.filter fun entry => decide (entry.2 = category)).map Prod.fst
  openings.foldl (fun values t => if values.contains t then values else values ++ [t])
    (d.vocabulary.values category)

end Dialect

end AbilityText

/-
AbilityText.Generator — ability text written from chains.

The text of a chain has up to three layers: the effects, the condition around them, and the
trigger around both. Each layer has templates by keyword. The effect at some place takes the
value, the type, the direction and the state at the same place, or the first of them; what has no
template is written in its own words.
-/
import AbilityText.AbilityType
import AbilityText.Catalog

namespace AbilityText

/-! ## Plurals -/

/-- The endings after which a plural takes "es". -/
def sibilants : List Text := ["s", "x", "ch", "sh", "o"]

/-- The plural of a word. -/
def pluralWord (word : Text) : Text :=
  match Text.before? "y" word with
  | some stem =>
    if stem.getLast?.any fun c => c = 'a' || c = 'e' || c = 'o' then word ++ ['s']
    else stem ++ "ies"
  | none =>
    if sibilants.any fun ending => Text.endsWith ending word then word ++ "es" else word ++ ['s']

/-- The phrase with its last word in the plural. -/
def pluralPhrase (phrase : Text) : Text :=
  match Text.cutLast? ' ' phrase with
  | some (head, last) => head ++ ' ' :: pluralWord last
  | none => pluralWord phrase

/-! ## The generator -/

/-- The templates of a generator, by the normal form of their keywords. -/
structure Generator where
  effects : Catalog Text
  triggers : Catalog Text
  conditions : Catalog Text

namespace Generator

/-- The generator with a template for an effect. -/
def addEffect (keyword template : Text) (g : Generator) : Generator :=
  { g with effects := g.effects.insert (Text.normalize keyword) template }

/-- The generator with a template for a trigger. -/
def addTrigger (keyword template : Text) (g : Generator) : Generator :=
  { g with triggers := g.triggers.insert (Text.normalize keyword) template }

/-- The generator with a template for a condition. -/
def addCondition (keyword template : Text) (g : Generator) : Generator :=
  { g with conditions := g.conditions.insert (Text.normalize keyword) template }

open Template in
/-- The templates that every generator starts with. -/
def standard : Generator :=
  let onTarget : Text := "[ to " ++ slot .direction ++ " " ++ slot .control ++ " " ++ slot .state ++
    " " ++ slot .type ++ "]"
  { effects := .ofList
      [("deal", "deal " ++ slot .value ++ " damage" ++ onTarget),
       ("draw", "draw " ++ slot .value ++ " card" ++ plural),
       ("restore", "restore " ++ slot .value ++ " Health" ++ onTarget),
       ("gain", "gain " ++ slot .value ++ " " ++ slot .type),
       ("summon", "summon " ++ slot .value ++ " " ++ slot .type),
       ("discover", "discover " ++ slot .value ++ " " ++ slot .type)]
    triggers := .ofList
      [("battlecry", "Battlecry: " ++ slot .effect),
       ("deathrattle", "Deathrattle: " ++ slot .effect),
       ("combo", "Combo: " ++ slot .effect),
       ("spellburst", "Spellburst: " ++ slot .effect),
       ("at the end of", slot .trigger ++ ", " ++ slot .effect),
       ("at the start of", slot .trigger ++ ", " ++ slot .effect)]
    conditions := .ofList
      [("if", "if " ++ slot .condition ++ ", " ++ slot .effect),
       ("unless", "unless " ++ slot .condition ++ ", " ++ slot .effect)] }

/-! ## Effects -/

/-- The directions that speak of one object. -/
def singularDirections : List Text := ["target", "random", "another", "this", "that", "a", "an"]

/-- The effects whose value counts the type. -/
def countingEffects : List Text := ["summon", "discover"]

/-- Is the type of an effect written in the plural? After a direction unless it speaks of one
object; without a direction when the effect counts its type and the count is not one. -/
def takesPlural (effect : Text) (direction value : Option Text) : Bool :=
  match direction with
  | some d => !singularDirections.contains d
  | none => countingEffects.contains effect && value.any fun v => v != ("1" : Text)

/-- The text of the effect at a place. -/
def effectText (g : Generator) (chain : Chain) (index : Nat) (effect : Text) : Text :=
  let value := chain.nthTextOf? .value index
  let type := chain.nthTextOf? .type index
  match g.effects.get? effect with
  | none => Text.unwords ([some effect, value, type].filterMap id)
  | some template =>
    let direction := chain.nthTextOf? .direction index
    Template.render template fun name =>
      if name = Category.value.toTag then value
      else if name = Category.direction.toTag then direction
      else if name = Category.state.toTag then chain.nthTextOf? .state index
      else if name = Category.type.toTag then
        type.map fun t => if takesPlural effect direction value then pluralPhrase t else t
      else if name = Template.pluralName then some (Template.pluralEnding value)
      else placeholderText chain name

/-- The texts of all effects, joined by "and". -/
def effectsText (g : Generator) (chain : Chain) : Text :=
  let texts := (chain.componentsOf .effect).mapIdx fun i c => g.effectText chain i c.text
  List.intercalate " and " (texts.filter fun t => !t.isEmpty)

/-! ## Conditions and triggers -/

/-- The effects under a condition. The first word of the condition selects the template. -/
def conditionText (g : Generator) (condition effects : Text) : Text :=
  let (keyword, rest) := (Text.cutFirst? ' ' condition).getD (condition, [])
  match g.conditions.get? keyword with
  | none => Template.tidy (condition ++ ", " ++ effects)
  | some template =>
    Template.render template fun name =>
      if name = Category.condition.toTag then some rest
      else if name = Category.effect.toTag then some effects
      else none

/-- Does the trigger go on with a space after the keyword? -/
def extendsKeyword (trigger keyword : Text) : Bool :=
  (Text.after? keyword trigger).any fun rest => rest.head? == some ' '

/-- The entry with the longest keyword; of equally long ones the last. -/
def longestKeyword? (entries : List (Text × Text)) : Option (Text × Text) :=
  entries.foldl
    (fun best entry =>
      if best.any fun b => entry.1.length < b.1.length then best else some entry)
    none

/-- The template of a trigger: that of the trigger itself, or else of the longest keyword with which
it opens as a word. -/
def triggerTemplate? (g : Generator) (trigger : Text) : Option Text :=
  match g.triggers.get? trigger with
  | some template => some template
  | none =>
    (longestKeyword? (g.triggers.entries.filter fun entry => extendsKeyword trigger entry.1)).map
      Prod.snd

/-- The body after a trigger. A template that sets the body off by a colon gets it with a capital.
-/
def triggerText (g : Generator) (trigger body : Text) : Text :=
  match g.triggerTemplate? trigger with
  | none => Template.tidy (trigger ++ " " ++ body)
  | some template =>
    let opened := Text.holds (": " ++ Template.slot .effect) template
    let body := if opened then Text.capitalize body else body
    Template.render template fun name =>
      if name = Category.trigger.toTag then some trigger
      else if name = Category.effect.toTag then some body
      else none

/-! ## Chains -/

/-- The text of a chain. The empty chain has none. -/
def generate (g : Generator) (chain : Chain) : Text :=
  if chain.isEmpty then []
  else
    let effects := g.effectsText chain
    let body :=
      match chain.textOf? .condition with
      | some condition => g.conditionText condition effects
      | none => effects
    let text :=
      match chain.textOf? .trigger with
      | some trigger => g.triggerText trigger body
      | none => body
    Text.capitalize text

end Generator

end AbilityText

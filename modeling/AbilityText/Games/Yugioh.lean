/-
AbilityText.Games.Yugioh — the phrases, rules and kinds of ability of Yu-Gi-Oh!.
-/
import AbilityText.Game

namespace AbilityText.Games.Yugioh

/-- The types of monsters. -/
def monsterTypes : List Text :=
  ["monster", "effect monster", "normal monster", "fusion monster", "synchro monster",
   "xyz monster", "link monster", "ritual monster", "pendulum monster", "token"]

/-- The types of spells and traps. -/
def spellTypes : List Text :=
  ["spell card", "trap card", "continuous spell", "continuous trap", "quick-play spell",
   "field spell"]

/-- The phrases of the game. -/
def vocabulary : Vocabulary :=
  Vocabulary.empty
    |>.words .effect
      ["special summon", "normal summon", "summon", "destroy", "tribute", "negate", "gain", "lose",
       "change", "detach", "banish", "draw", "send", "add", "inflict", "equip"]
    |>.words .direction ["all", "target", "each", "another", "your", "opponent", "up to"]
    |>.words .attribute ["dark", "light", "earth", "water", "fire", "wind", "divine"]
    |>.words .state
      ["face-up", "face-down", "summoned", "destroyed", "sent", "attack position",
       "defense position", "flipped"]
    |>.words .target
      ["monster", "card", "spell", "trap", "spell/trap", "deck", "graveyard", "hand", "field",
       "atk", "def", "life points", "lp"]
    |>.words .type monsterTypes
    |>.words .type spellTypes

/-- The kinds of ability. -/
def types : List AbilityType :=
  [AbilityType.new "Monster Effect" "Effect printed on a monster"
     |>.require [.type, .effect]
     |>.permit [.value, .direction, .attribute, .state, .target]
     |>.allow .type monsterTypes,
   AbilityType.new "Spell/Trap Effect" "Effect printed on a spell or trap"
     |>.require [.type, .effect]
     |>.permit [.value, .direction, .attribute, .state, .target]
     |>.allow .type spellTypes]

/-- The patterns. -/
def patterns : List Pattern :=
  [Pattern.new "Mass Destruction"
     |>.require [.effect, .direction, .target]
     |>.permit [.type, .attribute, .state]
     |>.allow .effect ["destroy", "banish"]
     |>.allow .direction ["all", "each"]]

/-- The dialect. -/
def dialect : Dialect where
  key := "yugioh"
  name := "Yu-Gi-Oh!"
  vocabulary := vocabulary
  order :=
    [.table .effect, .number, .table .direction, .table .attribute, .table .state, .table .target,
     .table .type]
  numeric := { effects := ["gain", "lose", "inflict", "draw", "change"], max := 10000 }
  subjectMarkers := ["this"]
  rules := [Rule.new "Effect Rule" "Card effects must have an effect" |>.require [.effect]]
  types := types
  patterns := patterns

/-- There is an effect on a type or a target, no number is missing, and the rules pass. -/
def isValid (chain : Chain) : Bool :=
  chain.hasCategory .effect && (chain.hasCategory .type || chain.hasCategory .target) &&
    !dialect.lacksNumber chain && dialect.passesRules chain

/-- The order in which the components of a text are written. -/
def renderOrder : List Category :=
  [.type, .effect, .value, .direction, .attribute, .state, .target]

/-- The game. -/
def game : Game := { dialect, isValid, render := fun chain => chain.renderBy renderOrder }

end AbilityText.Games.Yugioh

/-
AbilityText.Games.Hearthstone — the phrases, rules and kinds of ability of Hearthstone.
-/
import AbilityText.Game
import AbilityText.Generator

namespace AbilityText.Games.Hearthstone

open Template (slot)

/-- The phrases of the game. -/
def vocabulary : Vocabulary :=
  Vocabulary.empty
    |>.words .effect
      ["deal", "restore", "draw", "gain", "summon", "discover", "destroy", "freeze", "silence",
       "give", "transform", "return"]
    |>.words .direction ["target", "random", "all", "adjacent", "other", "each"]
    |>.words .control ["friendly", "enemy"]
    |>.words .state ["damaged", "frozen", "silenced", "poisonous", "stealthed"]
    |>.words .type
      ["minion", "spell", "weapon", "hero", "secret", "card", "character", "armor", "dragon",
       "beast", "murloc", "demon", "mech", "pirate", "elemental", "totem"]
    |>.declare .value ["1", "2", "3", "4", "5", "6", "7", "8", "9", "10", "x"]

/-- The keyword abilities that have a rule, a kind and a pattern of their own. -/
def keywords : List Text := ["Battlecry", "Deathrattle"]

/-- The rules of every ability: a keyword ability has an effect. -/
def rules : List Rule :=
  keywords.map fun keyword =>
    Rule.new (keyword ++ " Rule") (keyword ++ " abilities must have an effect")
      |>.withCheck fun chain => !chain.hasComponent .trigger keyword || chain.hasCategory .effect

/-- The kinds of ability. -/
def types : List AbilityType :=
  keywords.map fun keyword =>
    AbilityType.new keyword (keyword ++ " keyword ability")
      |>.require [.trigger, .effect]
      |>.permit [.value, .direction, .control, .state, .type, .condition]
      |>.allow .trigger [keyword]
      |>.withTemplate (keyword ++ ": " ++ slot .effect ++ " " ++ slot .value ++ "[ " ++
        slot .direction ++ " " ++ slot .control ++ " " ++ slot .type ++ "]")

/-- The patterns. -/
def patterns : List Pattern :=
  keywords.map fun keyword =>
    Pattern.new keyword
      |>.require [.trigger, .effect]
      |>.permit [.value, .direction, .control, .state, .type, .condition]
      |>.allow .trigger [keyword]

/-- The dialect. -/
def dialect : Dialect where
  key := "hearthstone"
  name := "Hearthstone"
  vocabulary := vocabulary
  order :=
    [.table .effect, .number, .table .direction, .table .control, .table .state, .table .type]
  numeric := { effects := ["deal", "restore", "draw", "gain", "summon", "discover"] }
  openings :=
    [("battlecry", .trigger), ("deathrattle", .trigger), ("inspire", .trigger), ("combo", .trigger),
     ("spellburst", .trigger)]
  captures :=
    [("if", .condition), ("unless", .condition), ("at the end of", .trigger),
     ("at the start of", .trigger)]
  rules := rules
  types := types
  patterns := patterns

/-- The effects that are meaningless without a number. -/
def valueEffects : List Text := ["deal", "restore", "draw"]

/-- There is a trigger or an effect, no number is missing, a target has a type, and the rules pass.
-/
def isValid (chain : Chain) : Bool :=
  !chain.isEmpty && (chain.hasCategory .trigger || chain.hasCategory .effect) &&
    (!(valueEffects.any fun effect => chain.hasComponent .effect effect) ||
      chain.hasCategory .value) &&
    (!chain.hasComponent .direction "target" || chain.hasCategory .type) &&
    dialect.passesRules chain

/-- The game. Its texts are written by the standard generator. -/
def game : Game := { dialect, isValid, render := Generator.standard.generate }

end AbilityText.Games.Hearthstone

/-
AbilityText.Games.FleshAndBlood — the phrases, rules and kinds of ability of Flesh and Blood.
-/
import AbilityText.Game

namespace AbilityText.Games.FleshAndBlood

open Template (slot)

/-- The phrases of the game. -/
def vocabulary : Vocabulary :=
  Vocabulary.empty
    |>.words .type
      ["attack action", "defense reaction", "attack reaction", "non-attack action", "instant",
       "action", "equipment", "weapon", "aura", "item", "ally"]
    |>.words .effect
      ["deal", "block", "gain", "draw", "prevent", "pitch", "banish", "create", "go again"]
    |>.words .direction ["target", "each", "all", "any", "another", "your", "opposing", "next"]
    |>.words .target
      ["hero", "opponent", "player", "attack", "card", "hand", "deck", "arsenal"]
    |>.words .resource ["resource", "action point"]
    |>.declare .value ["1", "2", "3", "4", "5", "6", "x"]

/-- The rules of every ability. -/
def rules : List Rule :=
  [Rule.new "Attack Action Rule" "Attack actions must have an effect" |>.withCheck fun chain =>
     !chain.hasComponent .type "attack action" || chain.hasCategory .effect,
   Rule.new "Defense Reaction Rule" "Defense reactions must have an effect"
     |>.withCheck fun chain =>
       !chain.hasComponent .type "defense reaction" || chain.hasCategory .effect]

/-- The kinds of ability. -/
def types : List AbilityType :=
  [AbilityType.new "Attack Action" "Attack action card that deals damage"
     |>.require [.type, .effect, .value]
     |>.permit [.direction, .target]
     |>.allow .type ["attack action"]
     |>.allow .effect ["deal"]
     |>.withTemplate (slot .type ++ " - deal " ++ slot .value ++ " damage[ to " ++
       slot .direction ++ " " ++ slot .target ++ "]"),
   AbilityType.new "Defense Reaction" "Defense reaction card that blocks"
     |>.require [.type, .effect, .value]
     |>.allow .type ["defense reaction"]
     |>.allow .effect ["block"]
     |>.withTemplate (slot .type ++ " - block " ++ slot .value)]

/-- The patterns. -/
def patterns : List Pattern :=
  [Pattern.new "Attack Action"
     |>.require [.type, .effect]
     |>.permit [.value, .direction, .target]
     |>.allow .type ["attack action"],
   Pattern.new "Defense Reaction"
     |>.require [.type, .effect]
     |>.permit [.value]
     |>.allow .type ["defense reaction"]]

/-- The dialect. -/
def dialect : Dialect where
  key := "fleshandblood"
  name := "Flesh and Blood"
  vocabulary := vocabulary
  order :=
    [.table .type, .table .effect, .number, .table .direction, .table .resource, .table .target]
  numeric := { effects := ["deal", "block", "gain", "draw", "prevent", "pitch"], max := 6 }
  rules := rules
  types := types
  patterns := patterns

/-- The game. -/
def game : Game := { dialect }

end AbilityText.Games.FleshAndBlood

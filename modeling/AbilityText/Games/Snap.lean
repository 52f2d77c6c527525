/-
AbilityText.Games.Snap — the phrases, rules and kinds of ability of Marvel Snap.
-/
import AbilityText.Game

namespace AbilityText.Games.Snap

open Template (slot)

/-- The phrases of the game. -/
def vocabulary : Vocabulary :=
  Vocabulary.empty
    |>.aliases .effect
      [("add", "add"), ("gain", "gain"), ("have", "gain"), ("has", "gain"), ("get", "gain"),
       ("destroy", "destroy"), ("move", "move"), ("discard", "discard"), ("draw", "draw"),
       ("afflict", "afflict"), ("double", "double")]
    |>.words .direction ["random", "your", "this", "all", "each", "other", "opponent"]
    |>.words .location ["here", "there"]
    |>.words .target ["power", "cost", "card", "location", "hand", "deck"]

/-- The rules of every ability. -/
def rules : List Rule :=
  [Rule.new "Base Rule" "Abilities must be On Reveal or Ongoing" |>.require [.type],
   Rule.new "Target Rule" "Abilities must affect power, cost, cards or locations"
     |>.require [.target]]

/-- The kinds of ability. -/
def types : List AbilityType :=
  [AbilityType.new "On Reveal" "Happens once when the card is revealed"
     |>.require [.type, .effect]
     |>.permit [.value, .direction, .location, .target]
     |>.allow .type ["on reveal"]
     |>.withTemplate ("on reveal: " ++ slot .effect ++ "[ +" ++ slot .value ++ "] " ++
       slot .target ++ "[ to " ++ slot .direction ++ " card][ " ++ slot .location ++ "]"),
   AbilityType.new "Ongoing" "Applies while the card is in play"
     |>.require [.type, .effect]
     |>.permit [.value, .direction, .location, .target]
     |>.allow .type ["ongoing"]]

/-- The patterns. -/
def patterns : List Pattern :=
  [Pattern.new "Power Buff"
     |>.require [.type, .effect, .value, .target]
     |>.permit [.direction, .location]
     |>.allow .effect ["add", "gain"]]

/-- The dialect. -/
def dialect : Dialect where
  key := "snap"
  name := "Marvel Snap"
  vocabulary := vocabulary
  order := [.table .effect, .number, .table .direction, .table .location, .table .target]
  numeric := { effects := ["add", "gain", "afflict"] }
  openings := [("on reveal", .type), ("ongoing", .type)]
  rules := rules
  types := types
  patterns := patterns

/-- The game. -/
def game : Game := { dialect }

end AbilityText.Games.Snap

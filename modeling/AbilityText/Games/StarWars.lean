/-
AbilityText.Games.StarWars — the phrases and kinds of ability of Star Wars: Unlimited.
-/
import AbilityText.Game

namespace AbilityText.Games.StarWars

open Template (slot)

/-- The phrases of the game. -/
def vocabulary : Vocabulary :=
  Vocabulary.empty
    |>.words .trigger ["when played", "on attack", "when defeated", "when", "whenever"]
    |>.words .effect
      ["deal", "ready", "exhaust", "heal", "defeat", "draw", "attack", "give", "return"]
    |>.words .direction ["another", "each", "all", "enemy", "friendly", "target"]
    |>.words .state ["attacking", "moved", "defending", "damaged", "exhausted"]
    |>.words .target ["opponent", "player", "hand", "resource"]
    |>.words .type
      ["unit", "character", "vehicle", "leader", "base", "upgrade", "event", "ground unit",
       "space unit"]

/-- The kinds of ability. -/
def types : List AbilityType :=
  [AbilityType.new "Damage" "Deals damage to a unit or base"
     |>.require [.effect, .damage]
     |>.permit [.trigger, .direction, .state, .type]
     |>.allow .effect ["deal"]
     |>.withTemplate ("deal " ++ slot .damage ++ " damage[ to " ++ slot .direction ++ " " ++
       slot .state ++ " " ++ slot .type ++ "]")]

/-- The dialect. Numbers are damage. -/
def dialect : Dialect where
  key := "starwars"
  name := "Star Wars: Unlimited"
  vocabulary := vocabulary
  order :=
    [.table .trigger, .table .effect, .number, .table .direction, .table .state, .table .target,
     .table .type]
  numeric := { effects := ["deal", "heal", "draw"], category := .damage }
  types := types

/-- There is an effect on a type or a target, and no number is missing. -/
def isValid (chain : Chain) : Bool :=
  chain.hasCategory .effect && (chain.hasCategory .type || chain.hasCategory .target) &&
    !dialect.lacksNumber chain

/-- The game. -/
def game : Game := { dialect, isValid }

end AbilityText.Games.StarWars

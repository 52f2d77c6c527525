/-
AbilityText.Games.Pokemon — the phrases, rules and kinds of ability of the Pokémon TCG.
-/
import AbilityText.Game

namespace AbilityText.Games.Pokemon

/-- The phrases of the game. -/
def vocabulary : Vocabulary :=
  Vocabulary.empty
    |>.words .effect
      ["draw", "attach", "prevent", "evolve", "heal", "discard", "search", "switch", "shuffle",
       "flip", "put"]
    |>.words .direction ["all", "each", "your", "opponent", "any", "up to"]
    |>.words .state
      ["active", "benched", "asleep", "confused", "paralyzed", "poisoned", "burned"]
    |>.words .energyType
      ["grass", "fire", "water", "lightning", "psychic", "fighting", "darkness", "metal", "fairy",
       "colorless", "dragon"]
    |>.words .type
      ["pokemon", "pokémon", "basic pokemon", "evolution", "energy", "trainer", "supporter", "item",
       "stadium"]
    |>.words .target ["card", "damage", "deck", "hand", "bench", "discard pile", "prize"]

/-- The rules of every ability. -/
def rules : List Rule :=
  [Rule.new "Energy Attachment Rule" "Attaching requires an energy" |>.withCheck fun chain =>
     !chain.hasComponent .effect "attach" || chain.hasCategory .energyType ||
       chain.hasValue "energy",
   Rule.new "Evolution Rule" "Evolving requires a Pokémon" |>.withCheck fun chain =>
     !chain.hasComponent .effect "evolve" || chain.hasCategory .type]

/-- The kinds of ability. -/
def types : List AbilityType :=
  [AbilityType.new "Poke-Power" "Activated Pokémon Power"
     |>.require [.keyword, .effect]
     |>.permit [.value, .direction, .state, .energyType, .type, .target]
     |>.allow .keyword ["poke-power", "poké-power"],
   AbilityType.new "Poke-Body" "Passive Pokémon Body"
     |>.require [.keyword, .effect]
     |>.permit [.value, .direction, .state, .energyType, .type, .target]
     |>.allow .keyword ["poke-body", "poké-body"],
   AbilityType.new "Trainer Effect" "Regular effect text"
     |>.require [.effect]
     |>.permit [.value, .direction, .state, .energyType, .type, .target]]

/-- The patterns. -/
def patterns : List Pattern :=
  [Pattern.new "Energy Attachment"
     |>.require [.effect, .energyType]
     |>.permit [.direction, .state, .type, .target]
     |>.allow .effect ["attach"],
   Pattern.new "Card Draw"
     |>.require [.effect, .value]
     |>.permit [.target, .keyword]
     |>.allow .effect ["draw"]]

/-- The dialect. -/
def dialect : Dialect where
  key := "pokemon"
  name := "Pokémon TCG"
  vocabulary := vocabulary
  order :=
    [.table .effect, .number, .table .direction, .table .state, .table .energyType, .table .type,
     .table .target]
  numeric := { effects := ["draw", "heal", "discard", "search", "put"], max := 300 }
  openings :=
    [("poke-power", .keyword), ("poké-power", .keyword), ("poke-body", .keyword),
     ("poké-body", .keyword)]
  rules := rules
  types := types
  patterns := patterns

/-- The game. -/
def game : Game := { dialect }

end AbilityText.Games.Pokemon

/-
AbilityText.Games.Lorcana — the phrases, rules and kinds of ability of Disney Lorcana.
-/
import AbilityText.Game

namespace AbilityText.Games.Lorcana

/-- The phrases of the game. -/
def vocabulary : Vocabulary :=
  Vocabulary.empty
    |>.words .trigger ["when", "whenever", "at the start of", "at the end of"]
    |>.words .effect
      ["quest", "challenge", "draw", "gain", "lose", "banish", "exert", "ready", "return", "deal",
       "remove", "pay", "move", "heal"]
    |>.words .direction
      ["this", "chosen", "each", "all", "another", "your", "opposing", "up to"]
    |>.aliases .state
      [("play", "played"), ("played", "played"), ("sing", "sung"), ("sung", "sung"),
       ("exerted", "exerted"), ("damaged", "damaged")]
    |>.words .target ["card", "opponent", "player", "damage", "hand", "inkwell", "deck"]
    |>.words .type
      ["character", "item", "song", "action", "location", "floodborn", "hero", "villain", "ally",
       "princess"]
    |>.declare .lore ["1", "2", "3", "x"]
    |>.declare .ink ["1", "2", "3", "x"]

/-- The rules of every ability. -/
def rules : List Rule :=
  [Rule.new "Character Ability Rule" "Character abilities must have an effect"
     |>.withCheck fun chain =>
       !chain.hasComponent .type "character" || chain.hasCategory .effect,
   Rule.new "Song Ability Rule" "Songs must have an effect" |>.withCheck fun chain =>
     !chain.hasComponent .type "song" || chain.hasCategory .effect]

/-- The kinds of card that have a kind of ability and a pattern. -/
def cardKinds : List Text := ["Character", "Song", "Item"]

/-- The kinds of ability. -/
def types : List AbilityType :=
  cardKinds.map fun kind =>
    AbilityType.new (kind ++ " Ability") ("Ability printed on a " ++ Text.lower kind ++ " card")
      |>.require [.type, .effect]
      |>.permit [.trigger, .direction, .state, .value, .lore, .ink, .target]
      |>.allow .type [kind]

/-- The patterns. -/
def patterns : List Pattern :=
  cardKinds.map fun kind =>
    Pattern.new (kind ++ " Ability")
      |>.require [.type, .effect]
      |>.permit [.trigger, .direction, .state, .value, .lore, .ink, .target]
      |>.allow .type [kind]

/-- The dialect. A number of lore or of ink has a category of its own. -/
def dialect : Dialect where
  key := "lorcana"
  name := "Disney Lorcana"
  vocabulary := vocabulary
  order :=
    [.table .trigger, .table .effect, .number, .table .direction, .table .state, .table .target,
     .table .type]
  numeric :=
    { effects := ["gain", "lose", "draw", "deal", "remove", "pay", "heal"]
      max := 10
      units := [("lore", .lore), ("ink", .ink)] }
  subjectMarkers := ["this", "chosen"]
  rules := rules
  types := types
  patterns := patterns

/-- The order in which the components of a text are written. -/
def renderOrder : List Category := [.type, .effect, .lore, .ink, .value, .target]

/-- The game. -/
def game : Game := { dialect, render := fun chain => chain.renderBy renderOrder }

end AbilityText.Games.Lorcana

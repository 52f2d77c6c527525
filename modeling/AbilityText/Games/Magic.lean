/-
AbilityText.Games.Magic — the phrases, rules and kinds of ability of Magic: The Gathering.
-/
import AbilityText.Game

namespace AbilityText.Games.Magic

open Template (slot)

/-- The phrases of the game. -/
def vocabulary : Vocabulary :=
  Vocabulary.empty
    |>.words .trigger ["when", "whenever", "at the beginning of", "at the end of"]
    |>.aliases .effect
      [("deal", "deal damage"), ("deal damage", "deal damage"), ("gain", "gain life"),
       ("gain life", "gain life"), ("lose", "lose life"), ("lose life", "lose life"),
       ("draw", "draw cards"), ("draw cards", "draw cards"), ("create", "create token"),
       ("create token", "create token"), ("search", "search library"),
       ("search library", "search library"), ("destroy", "destroy"), ("exile", "exile"),
       ("counter", "counter"), ("return", "return"), ("tap", "tap"), ("untap", "untap"),
       ("gain control", "gain control"), ("lose control", "lose control"), ("discard", "discard"),
       ("mill", "mill"), ("sacrifice", "sacrifice")]
    |>.words .direction
      ["target", "each", "all", "another", "random", "any", "any number of", "up to", "at least",
       "at most"]
    |>.words .state
      ["tapped", "untapped", "attacking", "blocking", "blocked", "unblocked", "destroyed", "exiled",
       "returned", "entered", "left", "died", "cast", "resolved"]
    |>.words .target
      ["player", "opponent", "controller", "library", "hand", "graveyard", "battlefield"]
    |>.words .type
      ["creature", "artifact", "enchantment", "planeswalker", "land", "instant", "sorcery", "spell",
       "ability", "permanent", "token", "card"]
    |>.declare .value ["1", "2", "3", "4", "5", "6", "7", "8", "9", "10", "x"]

/-- The effects that take a number. -/
def numericEffects : List Text :=
  ["deal damage", "gain life", "lose life", "draw cards", "mill", "discard"]

/-- The rules of every ability. -/
def rules : List Rule :=
  [Rule.new "Effect Rule" "Abilities must have an effect" |>.require [.effect],
   Rule.new "Numeric Effect Rule" "Numeric effects must have a value" |>.withCheck fun chain =>
     !(numericEffects.any fun effect => chain.hasComponent .effect effect) ||
       chain.hasCategory .value,
   Rule.new "Target Type Rule" "Targeted effects must name what they target"
     |>.withCheck fun chain =>
       !chain.hasComponent .direction "target" || chain.hasCategory .type ||
         chain.hasCategory .target]

/-- The kinds of ability. -/
def types : List AbilityType :=
  [AbilityType.new "Damage" "Deals damage to a creature, player or planeswalker"
     |>.require [.effect, .value]
     |>.permit [.direction, .state, .type, .target]
     |>.allow .effect ["deal damage"]
     |>.withTemplate ("deal " ++ slot .value ++ " damage[ to " ++ slot .direction ++ " " ++
       slot .state ++ " " ++ slot .type ++ " " ++ slot .target ++ "]"),
   AbilityType.new "Card Draw" "Draws one or more cards"
     |>.require [.effect, .value]
     |>.permit [.target, .type]
     |>.allow .effect ["draw cards"]
     |>.withTemplate ("draw " ++ slot .value ++ " card" ++ Template.plural),
   AbilityType.new "Life Gain" "Gains life"
     |>.require [.effect, .value]
     |>.allow .effect ["gain life"]
     |>.withTemplate ("gain " ++ slot .value ++ " life"),
   AbilityType.new "Removal" "Destroys or exiles a permanent"
     |>.require [.effect, .type]
     |>.permit [.direction, .state]
     |>.allow .effect ["destroy", "exile"]
     |>.withTemplate (slot .effect ++ "[ " ++ slot .direction ++ "] " ++ slot .state ++ " " ++
       slot .type),
   AbilityType.new "Counterspell" "Counters a spell or ability"
     |>.require [.effect, .type]
     |>.permit [.direction]
     |>.allow .effect ["counter"]
     |>.allow .type ["spell", "ability"]
     |>.withTemplate ("counter " ++ slot .direction ++ " " ++ slot .type)]

/-- The patterns. -/
def patterns : List Pattern :=
  [Pattern.new "Creature Removal"
     |>.require [.effect, .type]
     |>.permit [.direction, .state]
     |>.allow .type ["creature"],
   Pattern.new "Burn"
     |>.require [.effect, .value]
     |>.permit [.direction, .state, .type, .target]
     |>.allow .effect ["deal damage"]
     |>.allow .target ["player", "opponent"]]

/-- The dialect. Spells and abilities are only ever countered. -/
def dialect : Dialect where
  key := "magic"
  name := "Magic: The Gathering"
  vocabulary := vocabulary
  order :=
    [.table .trigger, .table .effect, .table .direction, .table .state, .number, .table .target,
     .table .type]
  numeric := { effects := numericEffects }
  gating := some
    { spellEffects := ["counter"]
      spellTypes := ["spell", "ability"]
      randomEffects := ["counter", "discard"]
      anotherTypes := ["creature", "artifact", "enchantment"] }
  minComponents := 2
  rules := rules
  types := types
  patterns := patterns

/-- The rules pass, and the chain is of a known kind or has an effect on a type or a target. -/
def isValid (chain : Chain) : Bool :=
  dialect.passesRules chain &&
    (dialect.types.any (fun kind => kind.isValid chain) ||
      (2 ≤ chain.size && chain.hasCategory .effect &&
        (chain.hasCategory .type || chain.hasCategory .target)))

/-- The game. -/
def game : Game := { dialect, isValid }

end AbilityText.Games.Magic

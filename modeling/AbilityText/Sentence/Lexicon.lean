/-
AbilityText.Sentence.Lexicon — the types, directions and effects that the registered games know
between them.
-/
import AbilityText.Registry

namespace AbilityText

/-- The words of several games, without regard to which game they come from. -/
structure Lexicon where
  types : List Text
  directions : List Text
  effects : List Text
deriving DecidableEq

namespace Lexicon

/-- The lexicon of some parsers. -/
def ofParsers (parsers : List GameParser) : Lexicon :=
  { types := parsers.flatMap fun parser => parser.components .type
    directions := parsers.flatMap fun parser => parser.components .direction
    effects := parsers.flatMap fun parser => parser.components .effect }

/-- Does some game know the effect? -/
def isEffect (lexicon : Lexicon) (word : Text) : Bool := lexicon.effects.contains word

/-- The category of a word standing alone: a number is a value, then types come before directions
and directions before effects. -/
def categoryOf? (lexicon : Lexicon) (word : Text) : Option Category :=
  if word.all Text.isAsciiDigit then some .value
  else if lexicon.types.contains word then some .type
  else if lexicon.directions.contains word then some .direction
  else if lexicon.effects.contains word then some .effect
  else none

end Lexicon

end AbilityText

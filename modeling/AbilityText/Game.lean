/-
AbilityText.Game — games as parsers of ability text.

What a game can do is a record of functions, so that any parser can stand beside the built-in games.
A built-in game is a dialect, with a verdict and a rendering of its own where the shared ones do not
suit it.
-/
import AbilityText.Classification

namespace AbilityText

/-- A parser of ability text for one game. -/
structure GameParser where
  /-- The key of the game. -/
  game : Text
  /-- The parse of a text under given options. -/
  run : ParseOptions → Text → Run
  /-- The verdict on a chain. -/
  isValid : Chain → Bool
  /-- The text of a chain. -/
  generate : Chain → Text
  /-- The categories that the parser uses. -/
  categories : CategorySet
  /-- The texts that components of a category may have. -/
  components : Category → List Text
  rules : List Rule := []
  types : List AbilityType := []
  patterns : List Pattern := []

namespace GameParser

/-- The chain of a text under the parser's own settings. -/
def parse (parser : GameParser) (text : Text) : Chain := (parser.run {} text).chain

/-- A parser that makes a chain of a text in some other way than by classification, and so ignores
options and keeps no record. -/
def ofParse (game : Text) (parse : Text → Chain) (isValid : Chain → Bool) (generate : Chain → Text)
    (categories : CategorySet) (components : Category → List Text) : GameParser :=
  { game, run := fun _ text => .ofChain (parse text), isValid, generate, categories, components }

end GameParser

/-- A dialect with its verdict and its rendering. -/
structure Game where
  dialect : Dialect
  isValid : Chain → Bool := dialect.accepts
  render : Chain → Text := dialect.describe

/-- The parser of a game. -/
def Game.parser (game : Game) : GameParser :=
  { game := game.dialect.key
    run := game.dialect.classify
    isValid := game.isValid
    generate := game.render
    categories := game.dialect.categories
    components := game.dialect.components
    rules := game.dialect.rules
    types := game.dialect.types
    patterns := game.dialect.patterns }

end AbilityText

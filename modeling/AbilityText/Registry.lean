/-
AbilityText.Registry — parsers by the key of their game.

Keys differing in case or in white space around them name the same entry. A registry is a value: a
program that shares one passes it along.
-/
import AbilityText.Catalog
import AbilityText.Games

namespace AbilityText

/-- The registered parsers, by normalised key. -/
structure Registry where
  parsers : Catalog GameParser

namespace Registry

/-- The form of a game's key under which its parser stands. -/
def key (game : Text) : Text := Text.lower (Text.trim game)

/-- The registry without parsers. -/
def empty : Registry := ⟨.empty⟩

/-- The registry of the built-in games. -/
def builtIn : Registry :=
  ⟨.ofList (Games.builtIn.map fun game => (game.dialect.key, game.parser))⟩

/-- The parser of a game. -/
def get (registry : Registry) (game : Text) : Except RegistryError GameParser :=
  match registry.parsers.get? (key game) with
  | some parser => .ok parser
  | none => .error (.unsupportedGame game)

/-- The registry with a parser for a game, in place of an earlier one. -/
def register (game : Text) (parser : GameParser) (registry : Registry) :
    Except RegistryError Registry :=
  if key game = [] then .error .blankKey
  else .ok ⟨registry.parsers.insert (key game) parser⟩

/-- The registry without a game. -/
def remove (game : Text) (registry : Registry) : Registry := ⟨registry.parsers.erase (key game)⟩

/-- The parser of a game, if it has one, and the registry without the game. -/
def take (game : Text) (registry : Registry) : Option GameParser × Registry :=
  let taken := registry.parsers.take (key game)
  (taken.1, ⟨taken.2⟩)

/-- Is there a parser for the game? -/
def isSupported (registry : Registry) (game : Text) : Bool := registry.parsers.contains (key game)

/-- The keys of the registered games in ascending order. -/
def games (registry : Registry) : List Text := registry.parsers.keys

end Registry

end AbilityText

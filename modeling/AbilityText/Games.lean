/-
AbilityText.Games — the eight built-in games.
-/
import AbilityText.Games.FleshAndBlood
import AbilityText.Games.Hearthstone
import AbilityText.Games.Lorcana
import AbilityText.Games.Magic
import AbilityText.Games.Pokemon
import AbilityText.Games.Snap
import AbilityText.Games.StarWars
import AbilityText.Games.Yugioh

namespace AbilityText.Games

/-- The built-in games. -/
def builtIn : List Game :=
  [Magic.game, Hearthstone.game, Pokemon.game, Yugioh.game, Lorcana.game, StarWars.game,
   FleshAndBlood.game, Snap.game]

end AbilityText.Games

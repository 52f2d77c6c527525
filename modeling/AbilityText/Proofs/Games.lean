/-
AbilityText.Proofs.Games — the vocabularies of the built-in games.

They are built from calls (`vocabulary_built`), and none of their canonical texts is blank
(`vocabulary_hasNoBlank`).
-/
import AbilityText.Games
import AbilityText.Proofs.Vocabulary

namespace AbilityText.Games

open Vocabulary (Built)

/-! ## §1 Built from calls -/

theorem Magic.built : Magic.vocabulary.Built :=
  Built.empty.words _ _ |>.aliases _ _ |>.words _ _ |>.words _ _ |>.words _ _ |>.words _ _
    |>.declare _ _

theorem Hearthstone.built : Hearthstone.vocabulary.Built :=
  Built.empty.words _ _ |>.words _ _ |>.words _ _ |>.words _ _ |>.words _ _ |>.declare _ _

theorem Pokemon.built : Pokemon.vocabulary.Built :=
  Built.empty.words _ _ |>.words _ _ |>.words _ _ |>.words _ _ |>.words _ _ |>.words _ _

theorem Yugioh.built : Yugioh.vocabulary.Built :=
  Built.empty.words _ _ |>.words _ _ |>.words _ _ |>.words _ _ |>.words _ _ |>.words _ _
    |>.words _ _

theorem Lorcana.built : Lorcana.vocabulary.Built :=
  Built.empty.words _ _ |>.words _ _ |>.words _ _ |>.aliases _ _ |>.words _ _ |>.words _ _
    |>.declare _ _ |>.declare _ _

theorem StarWars.built : StarWars.vocabulary.Built :=
  Built.empty.words _ _ |>.words _ _ |>.words _ _ |>.words _ _ |>.words _ _ |>.words _ _

theorem FleshAndBlood.built : FleshAndBlood.vocabulary.Built :=
  Built.empty.words _ _ |>.words _ _ |>.words _ _ |>.words _ _ |>.words _ _ |>.declare _ _

theorem Snap.built : Snap.vocabulary.Built :=
  Built.empty.aliases _ _ |>.words _ _ |>.words _ _ |>.words _ _

theorem vocabulary_built : ∀ game ∈ builtIn, game.dialect.vocabulary.Built := by
  simp only [builtIn, List.forall_mem_cons]
  exact ⟨Magic.built, Hearthstone.built, Pokemon.built, Yugioh.built, Lorcana.built, StarWars.built,
    FleshAndBlood.built, Snap.built, by simp⟩

/-! ## §2 Canonical texts -/

/-- No canonical text of a built-in game is blank. -/
theorem vocabulary_hasNoBlank : ∀ game ∈ builtIn, game.dialect.vocabulary.HasNoBlank := by
  decide +kernel

end AbilityText.Games

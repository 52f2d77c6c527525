/-
AbilityText.Proofs.Classification.Numbers — every number on record obeys the policy of its game.

A number is "x" or a row of digits within bounds, it stands behind an effect that takes one, and the
word after it decides on its category (`NumberPolicy.Governs`). A claim by the policy makes such a
match (`governs_of_claims`). In a dialect that keeps numbers apart, nothing else makes a match with
the category of a number (`KeepsNumbersApart`): this is a property of the phrases of the game, and
the built-in games have it.
-/
import AbilityText.Proofs.Classification.Context
import AbilityText.Proofs.Classification.Soundness

namespace AbilityText

/-! ## §1 What the policy demands -/

namespace NumberPolicy

/-- The demands of the policy on a number behind the matches `before` and in front of the words
`later` of its clause. -/
structure Governs (policy : NumberPolicy) (before : List Match) (m : Match) (later : List Text) :
    Prop where
  spelled : m.text = ("x" : Text) ∨
    ∃ n, Text.Spells m.text n ∧ policy.min ≤ n ∧ n ≤ policy.max
  effect : ∃ effect ∈ policy.effects, Match.lastEffect? before = some effect
  category : policy.IsCategoryBefore later.head? m.category

end NumberPolicy

namespace Dialect

/-! ## §2 Numbers of a dialect -/

variable {d : Dialect}

/-- No phrase, keyword or capture has the category of a number. -/
structure KeepsNumbersApart (d : Dialect) : Prop where
  phrases : ∀ category ∈ d.numberCategories, d.vocabulary.table? category = none
  openings : ∀ category ∈ d.numberCategories, category ∉ d.openings.map Prod.snd
  captures : ∀ category ∈ d.numberCategories, category ∉ d.captures.map Prod.snd

/-- A phrase is resolved by the table of its category only. -/
theorem resolve?_of_no_table {category : Category} (h : d.vocabulary.table? category = none)
    (phrase : List Text) : d.resolve? category phrase = none := by
  have lookup : ∀ key, d.vocabulary.lookup category key = none := by
    intro key
    rw [Vocabulary.lookup, h, Option.bind_none]
  exact resolve?_eq_none_iff.2 ⟨lookup _, fun _ _ => lookup _⟩

/-- The match of a number obeys the policy. -/
theorem governs_of_claims {window : Nat} {before : List Match} {m : Match} {later : List Text}
    (proper : ∀ w ∈ Text.words m.phrase, Clause.IsClauseWord w) (apart : d.KeepsNumbersApart)
    (number : m.category ∈ d.numberCategories) (h : d.Claims window (.of before) m later) :
    d.numeric.Governs before m later := by
  obtain ⟨previous, claim, best, length, category, normal⟩ := h
  rcases bestClaim?_cases best with
    ⟨isClaim, -⟩ | ⟨⟨word, rest, effect, words, known, taken, accepted, rfl⟩, -⟩
  · -- A table has no phrase for the category of a number.
    have resolved := isClaim.resolved
    rw [← category, resolve?_of_no_table (apart.phrases _ number)] at resolved
    simp at resolved
  · obtain ⟨w, phrase⟩ := List.length_eq_one_iff.1 length.symm
    rw [phrase] at words proper
    obtain ⟨rfl, rfl⟩ := List.cons.inj words
    have own : m.text = w := by
      have := Text.isNormal_unwords fun w member => (proper w member).lower
      rw [Text.unwords_singleton] at this
      exact normal.trans this
    refine ⟨?_, ⟨effect, by simpa [takesNumber] using taken, known⟩, ?_⟩
    · rw [own]
      exact (NumberPolicy.spells_of_accepts (proper w (by simp)) accepted).imp_left And.left
    · exact NumberPolicy.isCategoryBefore_iff.2 category

/-- The phrase of a match in a clause is made of words of the clause. -/
theorem Reading.ReadAt.isClauseWord {reading : Reading} {before : List Match} {m : Match}
    {later : List Text} (h : reading.ReadAt before m later) :
    ∀ w ∈ Text.words m.phrase, Clause.IsClauseWord w := by
  obtain ⟨-, -, -, whole⟩ := h
  intro w member
  apply Clause.isClauseWord_of_mem_words
  rw [whole]
  exact List.mem_append_left _ (List.mem_append_right _ member)

/-- **Where numbers are kept apart, each of them obeys the policy.** -/
theorem governs_of_found (apart : d.KeepsNumbersApart) (options : ParseOptions) (text : Text)
    {before after : List Match} {m : Match}
    (split : (d.classify options text).trace.found = before ++ m :: after)
    (number : m.category ∈ d.numberCategories) :
    ∃ later, (d.readingOf options text).ReadAt before m later ∧
      d.numeric.Governs before m later := by
  rcases source_of_found options text split with opened | captured | ⟨later, place, claims⟩
  · exact absurd opened (apart.openings _ number)
  · exact absurd captured (apart.captures _ number)
  · exact ⟨later, place, governs_of_claims place.isClauseWord apart number claims⟩

end Dialect

/-! ## §3 The built-in games -/

namespace Games

theorem keepsNumbersApart : ∀ game ∈ builtIn, game.dialect.KeepsNumbersApart := by
  have phrases : ∀ game ∈ builtIn, ∀ category ∈ game.dialect.numberCategories,
      game.dialect.vocabulary.table? category = none := by decide +kernel
  have openings : ∀ game ∈ builtIn, ∀ category ∈ game.dialect.numberCategories,
      category ∉ game.dialect.openings.map Prod.snd := by decide
  have captures : ∀ game ∈ builtIn, ∀ category ∈ game.dialect.numberCategories,
      category ∉ game.dialect.captures.map Prod.snd := by decide
  exact fun game member => ⟨phrases game member, openings game member, captures game member⟩

/-- **Numbers obey the policy along every run.** Whenever a match of a built-in game has the
category of plain numbers or of a unit, it was read in a clause as "x" or as digits within the
bounds of the game, the last effect before it takes a number, and its category is that of the first
unit which the next word of the clause names, or that of plain numbers when there is no such unit.
-/
theorem numbers_governed_along_classify : ∀ game ∈ builtIn,
    ∀ (options : ParseOptions) (text : Text) (before after : List Match) (m : Match),
      (game.dialect.classify options text).trace.found = before ++ m :: after →
        m.category ∈ game.dialect.numberCategories →
          ∃ later, (game.dialect.readingOf options text).ReadAt before m later ∧
            game.dialect.numeric.Governs before m later := by
  intro game member options text before after m split number
  exact Dialect.governs_of_found (keepsNumbersApart game member) options text split number

/-- Lore, written with zeros in front, behind an effect that stands in another clause. -/
def loreText : Text := "Gain, this turn, 002 lore"

/-- The zeros in front do not count, and "gain" is the last effect before the number. -/
theorem numbers_governed_along_classify_lore :
    let d := Lorcana.game.dialect
    ∃ before m, (d.classify {} loreText).trace.found = before ++ [m] ∧
      m.category = .lore ∧ m.category ∈ d.numberCategories ∧ m.text = ("002" : Text) ∧
      ∃ later, (d.readingOf {} loreText).ReadAt before m later ∧
        d.numeric.Governs before m later := by
  dsimp only
  have texts : (Lorcana.game.dialect.classify {} loreText).trace.found.map
        (fun m => (m.category, m.text)) =
      ([(.effect, "gain"), (.direction, "this")] : List (Category × Text)) ++
        ([(.lore, "002")] : List (Category × Text)) := by
    decide +kernel
  obtain ⟨before, last, split, -, named⟩ := List.map_eq_append_iff.1 texts
  obtain ⟨m, rest, rfl, same, named⟩ := List.map_eq_cons_iff.1 named
  obtain rfl := List.map_eq_nil_iff.1 named
  obtain ⟨category, own⟩ := Prod.mk.inj same
  have number : m.category ∈ Lorcana.game.dialect.numberCategories := by
    rw [category]
    decide
  have governed := numbers_governed_along_classify Lorcana.game (by simp [builtIn]) {} loreText
    before [] m split number
  exact ⟨before, m, split, category, number, own, governed⟩

end Games

end AbilityText

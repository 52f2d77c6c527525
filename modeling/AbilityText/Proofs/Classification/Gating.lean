/-
AbilityText.Proofs.Classification.Gating — what the gating of a game demands holds of every match on
record, with regard to the matches before it.

The gating is asked about the phrases of tables only, in the context of the moment. That context is
made of the matches before, so an answer can be checked on the record (`permits_of_admits`). When
keywords, captures and numbers give neither types nor directions, no match goes around the gating
(`permits_of_found`). In Magic this ties spells and abilities to "counter".
-/
import AbilityText.Proofs.Classification.Context
import AbilityText.Proofs.Classification.Soundness

namespace AbilityText

/-! ## §1 Gating on record -/

/-- The demands of the gating on a match, given the matches before it. Where no effect stands before
the match, its effect is the empty text. -/
structure Gating.Permits (gating : Gating) (before : List Match) (m : Match) : Prop where
  type : m.category = .type →
    ((Match.lastEffect? before).getD [] ∈ gating.spellEffects ↔ m.text ∈ gating.spellTypes)
  random : m.category = .direction → m.text = ("random" : Text) →
    (Match.lastEffect? before).getD [] ∈ gating.randomEffects
  another : m.category = .direction → m.text = ("another" : Text) →
    ∃ other ∈ before, other.category = .type ∧ other.text ∈ gating.anotherTypes

/-- Nothing is demanded of other categories. -/
theorem Gating.permits_of_other {gating : Gating} {before : List Match} {m : Match}
    (h : m.category ≠ .type ∧ m.category ≠ .direction) : gating.Permits before m where
  type type := absurd type h.1
  random direction := absurd direction h.2
  another direction := absurd direction h.2

namespace Dialect

variable {d : Dialect} {gating : Gating}

/-- **What the gating admits, it permits on record.** -/
theorem permits_of_admits {before : List Match} {m : Match} (gated : d.gating = some gating)
    (h : d.admits (.of before) m.category m.text = true) : gating.Permits before m := by
  simp only [admits, gated, Context.of] at h
  constructor
  · intro type
    rw [type] at h
    simp only [beq_iff_eq] at h
    rwa [Bool.eq_iff_iff, List.contains_iff_mem, List.contains_iff_mem] at h
  · intro direction random
    rw [direction, random] at h
    simpa using h
  · intro direction another
    rw [direction, another] at h
    have different : ¬("another" : Text) = ("random" : Text) := by decide
    simp only [different, if_true, if_false] at h
    obtain ⟨t, known, listed⟩ := List.any_eq_true.1 h
    obtain ⟨other, member, type, rfl⟩ := Match.mem_typeTexts.1 known
    exact ⟨other, member, type, by simpa using listed⟩

/-- The categories that a match can have without the gating being asked: those of keywords, captures
and numbers. -/
def ungatedCategories (d : Dialect) : List Category :=
  d.openings.map Prod.snd ++ d.captures.map Prod.snd ++ d.numberCategories

/-- **No match goes around the gating.** -/
theorem permits_of_found (built : d.vocabulary.Built) (gated : d.gating = some gating)
    (ungated : ∀ category ∈ d.ungatedCategories, category ≠ .type ∧ category ≠ .direction)
    (options : ParseOptions) (text : Text) {before after : List Match} {m : Match}
    (split : (d.classify options text).trace.found = before ++ m :: after) :
    gating.Permits before m := by
  rcases source_of_found options text split with opened | captured | ⟨later, -, claims⟩
  · exact Gating.permits_of_other (ungated _ (by simp [ungatedCategories, opened]))
  · exact Gating.permits_of_other (ungated _ (by simp [ungatedCategories, captured]))
  · obtain ⟨previous, claim, best, -, category, normal⟩ := claims
    rcases bestClaim?_cases best with ⟨isClaim, -⟩ | ⟨⟨_, _, _, -, -, -, -, rfl⟩, -⟩
    · have own : m.text = claim.text := normal.trans (isNormal_of_resolve? built isClaim.resolved)
      refine permits_of_admits gated ?_
      rw [category, own]
      exact isClaim.admitted
    · have number : m.category ∈ d.numberCategories := by
        rw [category]
        exact categoryBefore_mem_numberCategories _
      exact Gating.permits_of_other (ungated _ (by simp [ungatedCategories, number]))

end Dialect

/-! ## §2 Magic -/

namespace Games.Magic

/-- In Magic the gating covers all types and directions. -/
theorem ungated : ∀ category ∈ dialect.ungatedCategories,
    category ≠ .type ∧ category ≠ .direction := by decide

variable (options : ParseOptions) (text : Text)

/-- A chain that speaks of a spell or an ability counters it. -/
theorem hasComponent_counter {value : Text} (spell : value = ("spell" : Text) ∨
      value = ("ability" : Text))
    (h : (dialect.classify options text).chain.hasComponent .type value = true) :
    (dialect.classify options text).chain.hasComponent .effect "counter" = true := by
  have consistent := (Dialect.built_chain_classify dialect options text).consistent
  obtain ⟨c, inChain, type, normal⟩ := consistent.hasComponent_iff.1 h
  have spellType : c.text ∈ (["spell", "ability"] : List Text) := by
    rw [normal]
    rcases spell with rfl | rfl <;> decide
  obtain ⟨m, found, rfl⟩ := Dialect.exists_match_of_mem_chain dialect options text inChain
  obtain ⟨before, after, split⟩ := List.append_of_mem found
  have permits := Dialect.permits_of_found built rfl ungated options text split
  -- The type needs an effect before it, and there is only one that goes with it.
  have effect := (permits.type type).2 spellType
  cases last : Match.lastEffect? before with
  | none =>
    rw [last] at effect
    exact absurd effect (by decide)
  | some e =>
    rw [last, Option.getD_some, List.mem_singleton] at effect
    obtain ⟨other, member, isEffect, same⟩ := Match.exists_of_lastEffect? last
    have otherFound : other ∈ (dialect.classify options text).trace.found := by
      rw [split]
      exact List.mem_append_left _ member
    have counters := consistent.hasComponent_of_mem
      (Dialect.component_mem_chain_of_mem_found dialect options text inChain otherFound)
    have category : other.component.category = .effect := isEffect
    have counter : other.component.text = ("counter" : Text) := same.trans effect
    rwa [category, counter] at counters

end Games.Magic

/-! ## §3 Every run -/

namespace Dialect

/-- **Gating holds along every run.** When a dialect has gating, and neither its keywords nor its
captures nor its numbers give types or directions, every match on record is permitted with regard
to the matches before it. Magic is such a dialect, so its chains have the type "spell" or "ability"
only together with the effect "counter". -/
theorem gating_holds_along_classify :
    (∀ (d : Dialect) (gating : Gating), d.vocabulary.Built → d.gating = some gating →
      (∀ category ∈ d.ungatedCategories, category ≠ .type ∧ category ≠ .direction) →
      ∀ (options : ParseOptions) (text : Text) (before after : List Match) (m : Match),
        (d.classify options text).trace.found = before ++ m :: after →
          gating.Permits before m) ∧
    (Games.Magic.dialect.vocabulary.Built ∧ Games.Magic.dialect.gating.isSome = true ∧
      ∀ category ∈ Games.Magic.dialect.ungatedCategories,
        category ≠ .type ∧ category ≠ .direction) ∧
    ∀ (options : ParseOptions) (text : Text),
      let chain := (Games.Magic.dialect.classify options text).chain
      chain.hasComponent .type "spell" = true ∨ chain.hasComponent .type "ability" = true →
        chain.hasComponent .effect "counter" = true := by
  refine ⟨?_, ⟨Games.Magic.built, rfl, Games.Magic.ungated⟩, ?_⟩
  · intro d gating built gated ungated options text before after m split
    exact permits_of_found built gated ungated options text split
  · intro options text chain named
    rcases named with spell | ability
    · exact Games.Magic.hasComponent_counter options text (.inl rfl) spell
    · exact Games.Magic.hasComponent_counter options text (.inr rfl) ability

/-- A text in which a direction and a type depend on what stands before them. -/
def gatedText : Text := "Destroy target creature, counter another ability"

/-- Another creature needs a creature before it, and an ability the effect that counters it. -/
theorem gating_holds_along_classify_counter :
    let run := Games.Magic.dialect.classify {} gatedText
    Games.Magic.dialect.vocabulary.Built ∧ ∃ gating, Games.Magic.dialect.gating = some gating ∧
      ∃ before another ability, run.trace.found = before ++ [another, ability] ∧
        another.text = ("another" : Text) ∧ gating.Permits before another ∧
        ability.text = ("ability" : Text) ∧ gating.Permits (before ++ [another]) ability ∧
        run.chain.hasComponent .effect "counter" = true := by
  dsimp only
  obtain ⟨texts, spell⟩ :
      (Games.Magic.dialect.classify {} gatedText).trace.found.map Match.text =
        (["destroy", "target", "creature", "counter"] : List Text) ++
          (["another", "ability"] : List Text) ∧
      (Games.Magic.dialect.classify {} gatedText).chain.hasComponent .type "ability" = true := by
    decide +kernel
  obtain ⟨permits, ⟨built, -, ungated⟩, counters⟩ := gating_holds_along_classify
  obtain ⟨before, last, split, -, named⟩ := List.map_eq_append_iff.1 texts
  obtain ⟨another, rest, rfl, anotherText, named⟩ := List.map_eq_cons_iff.1 named
  obtain ⟨ability, rest, rfl, abilityText, named⟩ := List.map_eq_cons_iff.1 named
  obtain rfl := List.map_eq_nil_iff.1 named
  have first := permits _ _ built rfl ungated _ _ _ _ _ split
  have second := permits _ _ built rfl ungated {} gatedText (before ++ [another]) [] ability
    (by rw [split, List.append_assoc]; rfl)
  exact ⟨built, _, rfl, before, another, ability, split, anotherText, first, abilityText, second,
    counters _ _ (.inr spell)⟩

end Dialect

end AbilityText

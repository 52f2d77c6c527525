/-
AbilityText.Proofs.Plurals — plurals that are written, read as their singulars.

The generator writes the plural of a phrase by an ending on its last word, and a table that does not
know a phrase tries the singular forms of its last word. The endings that are written are those that
are taken off again: "ies" for a "y" that no vowel precedes, "es" after a sibilant, and "s" after
anything else, where it stands behind no other "s" (`mem_singulars_pluralWord`). Only the word "y"
is lost: nothing stands before its "ies".

So a phrase of a table is found in the plural by the table that knows it, with the text of the
plural itself where the table has that as well (`exists_resolve?_plural`).
-/
import AbilityText.Games.Yugioh
import AbilityText.Generator
import AbilityText.Proofs.Classification.Priority
import AbilityText.Proofs.Text.Phrases

namespace AbilityText

/-! ## §1 Endings that are taken off -/

namespace Clause

section
variable {stem : Text} (nonempty : stem ≠ [])
include nonempty

theorem mem_singulars_append_s (single : stem.getLast? ≠ some 's') :
    stem ∈ singulars (stem ++ ['s']) := by
  have cut : Text.before? ['s'] (stem ++ ['s']) = some stem := Text.before?_append stem _
  simp [singulars, cut, nonempty, single]

theorem mem_singulars_append_es : stem ∈ singulars (stem ++ "es") := by
  have cut : Text.before? ['e', 's'] (stem ++ ['e', 's']) = some stem := Text.before?_append stem _
  simp [singulars, cut, nonempty]

theorem mem_singulars_append_ies : stem ++ ['y'] ∈ singulars (stem ++ "ies") := by
  have cut : Text.before? ['i', 'e', 's'] (stem ++ ['i', 'e', 's']) = some stem :=
    Text.before?_append stem _
  simp [singulars, cut, nonempty]

end

end Clause

/-! ## §2 Words in the plural -/

theorem getLast?_ne_of_endsWith {c : Char} {word : Text} (h : Text.endsWith [c] word = false) :
    word.getLast? ≠ some c := by
  intro last
  obtain ⟨stem, rfl⟩ := List.getLast?_eq_some_iff.1 last
  rw [Text.endsWith, Text.before?_append] at h
  simp at h

/-- **A word is among the singular forms of its plural**, unless it is "y". -/
theorem mem_singulars_pluralWord {word : Text} (nonempty : word ≠ []) (notY : word ≠ ['y']) :
    word ∈ Clause.singulars (pluralWord word) := by
  unfold pluralWord
  split
  · next stem cut =>
    have ends : word = stem ++ ['y'] := Text.before?_eq_some cut
    split
    · refine Clause.mem_singulars_append_s nonempty ?_
      rw [ends, List.getLast?_concat]
      decide
    · have filled : stem ≠ [] := by
        rintro rfl
        exact notY ends
      rw [ends]
      exact Clause.mem_singulars_append_ies filled
  · split
    · exact Clause.mem_singulars_append_es nonempty
    · next other =>
      have single : Text.endsWith "s" word = false := by
        have none := List.any_eq_false.1 (Bool.eq_false_iff.2 other)
        simpa using none "s" (by decide)
      exact Clause.mem_singulars_append_s nonempty (getLast?_ne_of_endsWith single)

/-- The plural of a word is a word. -/
theorem isWord_pluralWord {word : Text} (h : Text.IsWord word) : Text.IsWord (pluralWord word) := by
  have append : ∀ {stem ending : Text}, (∀ c ∈ stem, Text.isSpace c = false) →
      Text.IsWord ending → Text.IsWord (stem ++ ending) := by
    intro stem ending solid isWord
    refine ⟨by simp [isWord.1], fun c member => ?_⟩
    exact (List.mem_append.1 member).elim (solid c) (isWord.2 c)
  unfold pluralWord
  split
  · next stem cut =>
    have ends : word = stem ++ ['y'] := Text.before?_eq_some cut
    split
    · exact append h.2 (by decide)
    · refine append (fun c member => h.2 c ?_) (by decide)
      rw [ends]
      exact List.mem_append_left _ member
  · split
    · exact append h.2 (by decide)
    · exact append h.2 (by decide)

/-! ## §3 Phrases in the plural -/

/-- A phrase in the plural has the plural of its last word, behind the same words. -/
theorem pluralPhrase_unwords {lead : List Text} {last : Text} (h : Text.IsWord last) :
    pluralPhrase (Text.unwords (lead ++ [last])) = Text.unwords (lead ++ [pluralWord last]) := by
  have noSpace : ' ' ∉ last := by
    intro space
    exact absurd (h.2 ' ' space) (by decide)
  unfold pluralPhrase
  cases lead with
  | nil =>
    rw [List.nil_append, List.nil_append, Text.unwords_singleton, Text.unwords_singleton,
        Text.cutLast?_of_not_mem noSpace]
  | cons w lead =>
    rw [Text.unwords_concat (by simp), Text.unwords_concat (by simp),
        Text.cutLast?_append _ noSpace]

/-- The words of a phrase stay when it is put into the plural, up to the last. -/
theorem words_pluralPhrase {phrase : Text} (normal : Text.IsNormal phrase)
    (nonempty : phrase ≠ []) :
    ∃ lead last, Text.words phrase = lead ++ [last] ∧ last ≠ [] ∧
      Text.unwords (lead ++ [last]) = phrase ∧
      Text.words (pluralPhrase phrase) = lead ++ [pluralWord last] := by
  have whole : Text.unwords (Text.words phrase) = phrase := Text.collapse_of_isNormal normal
  have proper : ∀ w ∈ Text.words phrase, Text.IsWord w := fun _ => Text.isWord_of_mem_words
  rcases List.eq_nil_or_concat (Text.words phrase) with none | ⟨lead, last, cut⟩
  · rw [none] at whole
    exact absurd whole.symm nonempty
  rw [List.concat_eq_append] at cut
  rw [cut] at whole proper
  have isWord : Text.IsWord last := proper last (by simp)
  refine ⟨lead, last, cut, isWord.1, whole, ?_⟩
  rw [← whole, pluralPhrase_unwords isWord]
  refine Text.words_unwords fun w member => ?_
  rcases List.mem_append.1 member with before | new
  · exact proper w (List.mem_append_left _ before)
  · rw [List.mem_singleton.1 new]
    exact isWord_pluralWord isWord

namespace Dialect

variable {d : Dialect} {category : Category}

/-- A table that knows a phrase resolves every phrase of which the last word has that of the first
among its singular forms. -/
theorem exists_resolve?_plural {lead : List Text} {last plural text : Text}
    (known : d.vocabulary.lookup category (Text.unwords (lead ++ [last])) = some text)
    (singular : last ∈ Clause.singulars plural) :
    ∃ other, d.resolve? category (lead ++ [plural]) = some other := by
  rw [← Option.isSome_iff_exists, ← Option.ne_none_iff_isSome]
  intro missing
  have each := (resolve?_eq_none_iff.1 missing).2
  rw [List.getLast?_concat, Option.getD_some, List.dropLast_concat] at each
  have absent := each last singular
  rw [known] at absent
  simp at absent

/-- A phrase that a table resolves is claimed where it stands, or a longer one is. -/
theorem exists_tableClaim?_of_resolve? {window : Nat} {ctx : Context} {phrase : List Text}
    {text : Text} (resolved : d.resolve? category phrase = some text)
    (admitted : d.admits ctx category text = true) (nonempty : phrase ≠ [])
    (inWindow : phrase.length ≤ window) (more : List Text) :
    ∃ claim, d.tableClaim? window ctx category (phrase ++ more) = some claim ∧
      phrase.length ≤ claim.length := by
  refine Admits.exists_tableClaim?
    ⟨List.length_pos_iff.2 nonempty, inWindow, ?_, ?_, admitted⟩
  · rw [List.length_append]
    omega
  · rw [List.take_left]
    exact resolve?_eq_some_iff.1 resolved

end Dialect

/-- **A plural that is written is read as the singular.** The phrase is in normal form and has a
last word, which is not "y". Then the phrase in the plural has the same words up to the last, and
the last word of the phrase is among the singular forms of the new one. Hence a table that knows the
phrase resolves it in the plural, and where that stands among the words of a clause, the table
claims it, or a longer phrase, as soon as the window has room for it and the gating lets its text
through. -/
theorem singulars_undo_plural {phrase : Text} (normal : Text.IsNormal phrase)
    (nonempty : phrase ≠ []) (notY : (Text.words phrase).getLast? ≠ some ['y']) :
    ∃ lead last plural, Text.words phrase = lead ++ [last] ∧
      Text.words (pluralPhrase phrase) = lead ++ [plural] ∧ last ∈ Clause.singulars plural ∧
      ∀ (d : Dialect) (category : Category) (text : Text),
        d.vocabulary.lookup category phrase = some text →
        ∃ other, d.resolve? category (Text.words (pluralPhrase phrase)) = some other ∧
          ∀ (window : Nat) (ctx : Context) (more : List Text),
            (Text.words phrase).length ≤ window → d.admits ctx category other = true →
            ∃ claim, d.tableClaim? window ctx category
                (Text.words (pluralPhrase phrase) ++ more) = some claim ∧
              (Text.words phrase).length ≤ claim.length := by
  obtain ⟨lead, last, cut, filled, whole, words⟩ := words_pluralPhrase normal nonempty
  rw [cut, List.getLast?_concat] at notY
  have singular : last ∈ Clause.singulars (pluralWord last) :=
    mem_singulars_pluralWord filled fun y => notY (congrArg some y)
  refine ⟨lead, last, pluralWord last, cut, words, singular, fun d category text known => ?_⟩
  rw [← whole] at known
  obtain ⟨other, resolved⟩ := Dialect.exists_resolve?_plural known singular
  have length : (Text.words phrase).length = (lead ++ [pluralWord last]).length := by simp [cut]
  rw [words, length]
  refine ⟨other, resolved, fun window ctx more inWindow admitted => ?_⟩
  exact Dialect.exists_tableClaim?_of_resolve? resolved admitted (by simp) inWindow more

/-- The life points of a clause about "life pointses" are found, "es" and all. -/
theorem singulars_undo_plural_lifePoints :
    pluralPhrase "life points" = ("life pointses" : Text) ∧
    ∃ lead last plural, Text.words "life points" = lead ++ [last] ∧
      Text.words (pluralPhrase "life points") = lead ++ [plural] ∧
      last ∈ Clause.singulars plural ∧
      ∃ other, Games.Yugioh.dialect.resolve? .target (Text.words (pluralPhrase "life points")) =
          some other ∧
        ∃ claim, Games.Yugioh.dialect.tableClaim? 4 {} .target
            (Text.words (pluralPhrase "life points") ++ [("of" : Text), ("each" : Text)]) =
              some claim ∧ 2 ≤ claim.length := by
  have normal : Text.IsNormal "life points" := by
    show Text.normalize "life points" = "life points"
    decide
  obtain ⟨lead, last, plural, cut, words, singular, resolves⟩ :=
    singulars_undo_plural normal (by decide) (by decide)
  obtain ⟨other, resolved, claims⟩ :=
    resolves Games.Yugioh.dialect .target "life points" (by decide)
  exact ⟨by decide, lead, last, plural, cut, words, singular, other, resolved,
    claims 4 {} [("of" : Text), ("each" : Text)] (by decide) rfl⟩

/-- Of the word "y" nothing is left before the ending of its plural. -/
example : ['y'] ∉ Clause.singulars (pluralWord ['y']) := by decide

end AbilityText

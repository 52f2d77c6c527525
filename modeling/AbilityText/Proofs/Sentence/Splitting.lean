/-
AbilityText.Proofs.Sentence.Splitting — the chains of a text are those of its sentences.

A text is cut into sentences at marks that belong to none of them, so the sentences of two texts
with a mark between them are those of the one and then those of the other (`split_append`), and each
sentence adds to the chains of the text what it yields alone (`chainsOf_eq_flatMap`).

Which sentences add nothing is a question about the rules. A rule either declines or finds a
fragment that is not blank (`exists_solid_of_reading`): some fragments are fixed words, and the
others (the quality, the condition, the cost) are trimmed and refused when nothing is left of them.
A fragment that is not blank becomes a component, so only a sentence that no rule reads can be left
out.
-/
import AbilityText.Proofs.Sentence.Fragments
import AbilityText.Proofs.Sentence.Signals
import AbilityText.Proofs.Text.Spacing
import AbilityText.Rulebook

namespace AbilityText

/-! ## §1 What a rule finds -/

namespace SentenceRule

/-- Whatever sentence the rule reads, it finds a fragment in it that is not blank. -/
def FindsSolid (rule : SentenceRule) : Prop :=
  ∀ lexicon s fragments, rule.reading lexicon s = some fragments →
    ∃ fragment ∈ fragments, Text.isBlank fragment.2 = false

/-- What trimming leaves is not blank. -/
theorem isBlank_trim {t : Text} (h : (Text.trim t).isEmpty = false) :
    Text.isBlank (Text.trim t) = false := by
  have nonempty : Text.trim t ≠ [] := by simpa using h
  rw [← Bool.not_eq_true, ← Text.words_eq_nil_iff, Text.words_trim]
  exact fun noWords => nonempty (Text.trim_eq_nil_iff.2 noWords)

/-- Fragments that a rule finds under a condition are the same in every sentence. -/
theorem exists_solid_of_ite {p : Prop} [Decidable p] {fragments found : List Fragment}
    (reads : (if p then some fragments else none) = some found)
    (h : ∃ fragment ∈ fragments, Text.isBlank fragment.2 = false) :
    ∃ fragment ∈ found, Text.isBlank fragment.2 = false := by
  obtain ⟨-, same⟩ := Option.ite_none_right_eq_some.1 reads
  obtain rfl := Option.some.inj same
  exact h

theorem findsSolid_keyword (word : Text) {fragments : List Fragment}
    (h : ∃ fragment ∈ fragments, Text.isBlank fragment.2 = false) :
    (keyword word fragments).FindsSolid := by
  intro lexicon s found reads
  exact exists_solid_of_ite reads h

theorem findsSolid_strike : strike.FindsSolid := by
  intro lexicon s found reads
  obtain ⟨phrase, -, rfl⟩ := Option.map_eq_some_iff.1 reads
  refine ⟨(.type, "damage"), ?_, by decide⟩
  split <;> simp

theorem findsSolid_protection : protection.FindsSolid := by
  intro lexicon s found reads
  obtain ⟨quality, -, rfl⟩ := Option.map_eq_some_iff.1 reads
  exact ⟨(.direction, "can't"), by simp, by decide⟩

/-- A condition of which trimming leaves nothing is none. -/
theorem findsSolid_triggered : triggered.FindsSolid := by
  intro lexicon s found reads
  obtain ⟨condition, search, rfl⟩ := Option.map_eq_some_iff.1 reads
  obtain ⟨trimmed, nonempty⟩ := Option.filter_eq_some_iff.1 search
  obtain ⟨raw, -, rfl⟩ := Option.map_eq_some_iff.1 trimmed
  exact ⟨(.state, Text.trim raw), by simp, isBlank_trim (by simpa using nonempty)⟩

/-- A cost of which trimming leaves nothing is none; whether the effect is blank does not matter. -/
theorem findsSolid_activated : activated.FindsSolid := by
  intro lexicon s found reads
  obtain ⟨⟨before, after⟩, -, reads⟩ := Option.bind_eq_some_iff.1 reads
  obtain ⟨effect, -, reads⟩ := Option.bind_eq_some_iff.1 reads
  dsimp only at reads
  split at reads
  · simp at reads
  · next nonempty =>
    obtain rfl := Option.some.inj reads
    exact ⟨(.cost, Text.trim before), by simp, isBlank_trim (by simpa using nonempty)⟩

theorem findsSolid_static : static.FindsSolid := by
  intro lexicon s found reads
  exact exists_solid_of_ite reads (by decide)

theorem findsSolid_replacement : replacement.FindsSolid := by
  intro lexicon s found reads
  exact exists_solid_of_ite reads (by decide)

theorem findsSolid_stateBased : stateBased.FindsSolid := by
  intro lexicon s found reads
  exact exists_solid_of_ite reads (by decide)

/-- **A rule that reads a sentence finds something in it.** -/
theorem exists_solid_of_reading : ∀ rule ∈ all, rule.FindsSolid := by
  simp only [all, List.forall_mem_cons]
  exact ⟨findsSolid_keyword _ (by decide), findsSolid_keyword _ (by decide),
    findsSolid_keyword _ (by decide), findsSolid_strike, findsSolid_keyword _ (by decide),
    findsSolid_keyword _ (by decide), findsSolid_keyword _ (by decide), findsSolid_protection,
    findsSolid_triggered, findsSolid_activated, findsSolid_static, findsSolid_replacement,
    findsSolid_stateBased, fun _ member => absurd member List.not_mem_nil⟩

end SentenceRule

namespace Sentence

/-- A sentence that a rule reads yields a chain. -/
theorem isEmpty_analyse {lexicon : Lexicon} {text : Text}
    (h : (analyse lexicon text).1 ≠ .plain) : (analyse lexicon text).2.isEmpty = false := by
  rw [analyse_eq] at h ⊢
  split at h
  · exact absurd rfl h
  · cases search : SentenceRule.all.findSome? ((lowered text).fragmentsBy? lexicon) with
    | none =>
      rw [search] at h
      exact absurd rfl h
    | some result =>
      obtain ⟨rule, listed, tried⟩ := List.exists_of_findSome?_eq_some search
      unfold fragmentsBy? at tried
      split at tried
      · obtain ⟨fragments, reads, rfl⟩ := Option.map_eq_some_iff.1 tried
        rw [if_neg ‹_›]
        exact isEmpty_chainOf
          (SentenceRule.exists_solid_of_reading rule listed lexicon (lowered text) fragments reads)
      · simp at tried

/-! ## §2 Sentences of a text -/

/-- Does the character end a sentence? -/
def isMark (c : Char) : Bool := c = '.' || c = '!' || c = '?'

theorem split_eq (text : Text) : split text =
    ((text.splitOnP isMark).map Text.trim).filter fun sentence => !sentence.isEmpty := rfl

/-- A mark divides the sentences of a text, and belongs to none of them. -/
theorem split_append {mark : Char} (h : isMark mark = true) (a b : Text) :
    split (a ++ mark :: b) = split a ++ split b := by
  simp only [split_eq, List.splitOnP_append_cons a b h, List.map_append, List.filter_append]

/-- A sentence of a text is the only sentence of itself. -/
theorem split_of_mem_split {text sentence : Text} (h : sentence ∈ split text) :
    split sentence = [sentence] := by
  rw [split_eq] at h
  obtain ⟨listed, nonempty⟩ := List.mem_filter.1 h
  obtain ⟨piece, inText, rfl⟩ := List.mem_map.1 listed
  have unmarked : ∀ c ∈ Text.trim piece, isMark c = false := by
    intro c member
    exact (Text.mem_splitOnP inText c ((Text.trimOf_sublist _ piece).subset member)).1
  have trimmed : Text.trim (Text.trim piece) = Text.trim piece :=
    Text.trim_of_isTrimmed (Text.isTrimmed_trim piece)
  rw [split_eq, List.splitOnP_eq_singleton unmarked, List.map_singleton, trimmed]
  simp [nonempty]

end Sentence

/-! ## §3 Chains of a text -/

namespace Rulebook

variable (book : Rulebook)

/-- What a sentence of a text adds to its chains: the chain that it yields, if that is not empty. -/
theorem chainsOf_of_mem_split {text sentence : Text} (h : sentence ∈ Sentence.split text) :
    book.chainsOf sentence =
      if (book.analyse sentence).2.isEmpty then [] else [(book.analyse sentence).2] := by
  rw [chainsOf, Sentence.split_of_mem_split h, List.map_singleton, List.filter_singleton]
  cases (book.analyse sentence).2.isEmpty <;> rfl

/-- The chains of a text are those of its sentences, each by itself. -/
theorem chainsOf_eq_flatMap (text : Text) :
    book.chainsOf text = (Sentence.split text).flatMap book.chainsOf := by
  rw [chainsOf, List.map_eq_flatMap, List.filter_flatMap]
  refine List.flatMap_congr fun sentence listed => ?_
  rw [chainsOf, Sentence.split_of_mem_split listed, List.map_singleton]

theorem chainsOf_append {mark : Char} (h : Sentence.isMark mark = true) (a b : Text) :
    book.chainsOf (a ++ mark :: b) = book.chainsOf a ++ book.chainsOf b := by
  simp only [chainsOf, Sentence.split_append h, List.map_append, List.filter_append]

/-- **Cutting a text into sentences loses and mixes nothing.** A mark between two texts divides
their chains. A sentence of any kind but the plain one yields a chain that is not empty. So each
sentence of a text adds to the chains of the text what it yields alone, which is exactly one chain
unless it is plain, and only a plain sentence can add none. -/
theorem chainsOf_divides :
    (∀ a b : Text, ∀ mark ∈ ['.', '!', '?'],
      book.chainsOf (a ++ mark :: b) = book.chainsOf a ++ book.chainsOf b) ∧
    (∀ sentence : Text, (book.analyse sentence).1 ≠ .plain →
      (book.analyse sentence).2.isEmpty = false) ∧
    ∀ text : Text, book.chainsOf text = (Sentence.split text).flatMap book.chainsOf ∧
      ∀ sentence ∈ Sentence.split text,
        ((book.analyse sentence).1 ≠ .plain →
          book.chainsOf sentence = [(book.analyse sentence).2]) ∧
        (book.chainsOf sentence = [] → (book.analyse sentence).1 = .plain) := by
  have single : ∀ text : Text, ∀ sentence ∈ Sentence.split text,
      (book.analyse sentence).1 ≠ .plain →
        book.chainsOf sentence = [(book.analyse sentence).2] := by
    intro text sentence listed kind
    rw [book.chainsOf_of_mem_split listed, if_neg]
    rw [Bool.not_eq_true]
    exact Sentence.isEmpty_analyse kind
  refine ⟨fun a b mark listed => ?_, fun sentence => Sentence.isEmpty_analyse,
    fun text => ⟨book.chainsOf_eq_flatMap text, fun sentence listed =>
      ⟨single text sentence listed, fun skipped => ?_⟩⟩⟩
  · have isMark : Sentence.isMark mark = true := by
      simpa [Sentence.isMark, or_assoc] using listed
    exact book.chainsOf_append isMark a b
  · by_contra kind
    rw [single text sentence listed kind] at skipped
    simp at skipped

/-- A text of two sentences that rules read, and marks that follow each other. -/
def flyingText : Text := "Flying" ++ '.' :: (" Whenever a creature dies, draw a card! .." : Text)

/-- Each of the two sentences adds one chain, and the marks add none. -/
theorem chainsOf_divides_flying :
    let rest : Text := " Whenever a creature dies, draw a card! .."
    let trigger : Text := "Whenever a creature dies, draw a card"
    builtIn.chainsOf flyingText = builtIn.chainsOf "Flying" ++ builtIn.chainsOf rest ∧
      (builtIn.analyse trigger).2.isEmpty = false ∧
      builtIn.chainsOf flyingText =
        (Sentence.split flyingText).flatMap builtIn.chainsOf ∧
      builtIn.chainsOf trigger = [(builtIn.analyse trigger).2] := by
  intro rest trigger
  obtain ⟨divides, yields, each⟩ := builtIn.chainsOf_divides
  have kind : (builtIn.analyse trigger).1 ≠ .plain := by decide +kernel
  have listed : trigger ∈ Sentence.split flyingText := by decide +kernel
  exact ⟨divides "Flying" rest '.' (by decide), yields trigger kind, (each flyingText).1,
    ((each flyingText).2 trigger listed).1 kind⟩

end Rulebook

end AbilityText

/-
AbilityText.Proofs.Classification.Window — a window past the longest phrase changes nothing.

A table resolves a phrase by looking it up, as it stands or with a singular form for its last word.
Either way as many words are looked up as the phrase has. So a phrase of more words than the longest
surface phrase of the vocabulary is never resolved (`resolve?_eq_none_of_longer`), and every window
that leaves room for that phrase gives a table the same claim (`tableClaim?_eq_of_le`).
-/
import AbilityText.Games
import AbilityText.Proofs.Classification.Alike

namespace AbilityText

open Text (IsWord)

/-! ## §1 The longest surface phrase -/

namespace Vocabulary

/-- The number of words of the longest surface phrase, and at least one. -/
def longestPhrase (vocabulary : Vocabulary) : Nat :=
  ((vocabulary.tables.flatMap PhraseTable.entries).map fun entry =>
    (Text.words entry.1).length).foldr max 1

theorem longestPhrase_le_iff {vocabulary : Vocabulary} {n : Nat} :
    vocabulary.longestPhrase ≤ n ↔
      1 ≤ n ∧ vocabulary.EntriesSatisfy fun entry => (Text.words entry.1).length ≤ n := by
  have bound : ∀ lengths : List Nat,
      lengths.foldr max 1 ≤ n ↔ 1 ≤ n ∧ ∀ length ∈ lengths, length ≤ n := by
    intro lengths
    induction lengths with
    | nil => simp
    | cons length lengths ih =>
      rw [List.foldr_cons, Nat.max_le, ih, List.forall_mem_cons]
      exact and_left_comm
  rw [longestPhrase, bound, List.forall_mem_map]
  refine and_congr_right fun _ => ⟨fun h table listed entry member => ?_, fun h entry member => ?_⟩
  · exact h entry (List.mem_flatMap.2 ⟨table, listed, member⟩)
  · obtain ⟨table, listed, member⟩ := List.mem_flatMap.1 member
    exact h table listed entry member

/-- What a look-up finds is no longer than the longest phrase. -/
theorem lookup_eq_none_of_longer {vocabulary : Vocabulary} {words : List Text}
    (proper : ∀ w ∈ words, IsWord w) (longer : vocabulary.longestPhrase < words.length)
    (category : Category) : vocabulary.lookup category (Text.unwords words) = none := by
  rw [Option.eq_none_iff_forall_ne_some]
  intro text found
  have bound := (longestPhrase_le_iff.1 (Nat.le_refl vocabulary.longestPhrase)).2
  have short := bound.of_lookup found
  rw [Text.words_unwords proper] at short
  omega

end Vocabulary

namespace Dialect

variable {d : Dialect} {category : Category} {words : List Text}

/-! ## §2 Claims under two windows -/

/-- No table resolves a phrase that is longer than the longest one, whatever its last word. -/
theorem resolve?_eq_none_of_longer (proper : ∀ w ∈ words, IsWord w)
    (longer : d.vocabulary.longestPhrase < words.length) : d.resolve? category words = none := by
  rcases List.eq_nil_or_concat words with rfl | ⟨front, last, rfl⟩
  · simp at longer
  · rw [List.concat_eq_append] at proper longer ⊢
    refine resolve?_eq_none_iff.2 ⟨Vocabulary.lookup_eq_none_of_longer proper longer category, ?_⟩
    intro form singular
    rw [List.getLast?_concat, Option.getD_some] at singular
    rw [List.dropLast_concat]
    -- The singular form is one word in the place of one word.
    have properForm : ∀ w ∈ front ++ [form], IsWord w := by
      intro w member
      rcases List.mem_append.1 member with inFront | last
      · exact proper w (List.mem_append_left _ inFront)
      · rw [List.mem_singleton.1 last]
        exact Clause.isWord_of_mem_singulars (proper _ (by simp)) singular
    exact Vocabulary.lookup_eq_none_of_longer properForm (by simpa using longer) category

/-- Further words make no difference to the search for the longest phrase. -/
theorem longestPhrase?_eq_of_le {ctx : Context} (proper : ∀ w ∈ words, IsWord w) {n : Nat}
    (room : d.vocabulary.longestPhrase ≤ n) (fits : n ≤ words.length) :
    d.longestPhrase? ctx category words n =
      d.longestPhrase? ctx category words d.vocabulary.longestPhrase := by
  induction n, room using Nat.le_induction with
  | base => rfl
  | succ n room ih =>
    have tooLong : d.resolve? category (words.take (n + 1)) = none := by
      refine resolve?_eq_none_of_longer (fun w member => proper w (List.mem_of_mem_take member)) ?_
      rw [List.length_take_of_le fits]
      omega
    rw [longestPhrase?, tooLong]
    exact ih (by omega)

theorem tableClaim?_eq_of_le {window : Nat} {ctx : Context} (proper : ∀ w ∈ words, IsWord w)
    (room : d.vocabulary.longestPhrase ≤ window) :
    d.tableClaim? window ctx category words =
      d.tableClaim? d.vocabulary.longestPhrase ctx category words := by
  unfold tableClaim?
  by_cases few : words.length ≤ d.vocabulary.longestPhrase
  · -- All words are in either window.
    rw [Nat.min_eq_right (Nat.le_trans few room), Nat.min_eq_right few]
  · rw [longestPhrase?_eq_of_le proper (by omega) (Nat.min_le_right _ _),
      Nat.min_eq_left (by omega : d.vocabulary.longestPhrase ≤ words.length)]

/-- Windows that leave room for the longest phrase give the same claims. -/
theorem claimsAlike_of_le {window window' : Nat} (room : d.vocabulary.longestPhrase ≤ window)
    (room' : d.vocabulary.longestPhrase ≤ window') : d.ClaimsAlike window window' Eq where
  bestClaim?_eq := by
    rintro ctx _ rfl previous words proper
    have table : ∀ category, d.tableClaim? window ctx category words =
        d.tableClaim? window' ctx category words := fun category =>
      (tableClaim?_eq_of_le proper room).trans (tableClaim?_eq_of_le proper room').symm
    have step : d.stepClaim? window ctx words = d.stepClaim? window' ctx words := by
      funext step
      cases step with
      | table category => exact table category
      | number => rfl
    simp only [bestClaim?, table, step]
  after := by
    rintro ctx _ rfl finding
    rfl

/-! ## §3 Runs under two windows -/

theorem read_eq_of_le {window window' : Nat} (room : d.vocabulary.longestPhrase ≤ window)
    (room' : d.vocabulary.longestPhrase ≤ window') (t : Text) :
    d.read window t = d.read window' t := by
  simp only [read, (claimsAlike_of_le room room').readClauses_eq rfl]

/-- Only the windows of the two runs may differ. -/
theorem classify_eq_of_le {options options' : ParseOptions}
    (room : d.vocabulary.longestPhrase ≤ d.windowFor options)
    (room' : d.vocabulary.longestPhrase ≤ d.windowFor options')
    (minimum : options.minComponents = options'.minComponents) (text : Text) :
    d.classify options text = d.classify options' text := by
  unfold classify minimumFor
  rw [read_eq_of_le room room', minimum]

theorem le_windowFor {bound window : Nat} (room : bound ≤ window) (minComponents : Option Nat) :
    bound ≤ d.windowFor ⟨some window, minComponents⟩ := by
  rw [windowFor, Option.getD_some]
  omega

end Dialect

/-! ## §4 The built-in games -/

/-- The phrases of the built-in games have four words at most, and four words is their window. -/
theorem Games.longestPhrase_le : ∀ game ∈ builtIn,
    game.dialect.vocabulary.longestPhrase ≤ 4 ∧ game.dialect.window = 4 := by
  decide +kernel

/-- **A window matters only up to the longest phrase.** Two windows that leave room for the longest
surface phrase of a dialect make the same run of every text. In the built-in games no phrase is
longer than four words, so a window of more than the usual four makes the run that is made without a
window of one's own. -/
theorem Dialect.classify_eq_of_longestPhrase_le :
    (∀ (d : Dialect) (text : Text) (minComponents : Option Nat) (window window' : Nat),
      d.vocabulary.longestPhrase ≤ window → d.vocabulary.longestPhrase ≤ window' →
        d.classify ⟨some window, minComponents⟩ text =
          d.classify ⟨some window', minComponents⟩ text) ∧
    ∀ game ∈ Games.builtIn,
      game.dialect.vocabulary.longestPhrase ≤ 4 ∧ game.dialect.window = 4 ∧
      ∀ (text : Text) (minComponents : Option Nat) (window : Nat), 4 ≤ window →
        game.dialect.classify ⟨some window, minComponents⟩ text =
          game.dialect.classify ⟨none, minComponents⟩ text := by
  refine ⟨?_, fun game member => ?_⟩
  · intro d text minComponents window window' room room'
    exact classify_eq_of_le (le_windowFor room _) (le_windowFor room' _) rfl text
  · obtain ⟨short, usual⟩ := Games.longestPhrase_le game member
    refine ⟨short, usual, fun text minComponents window room => ?_⟩
    have byDefault : game.dialect.vocabulary.longestPhrase ≤
        game.dialect.windowFor ⟨none, minComponents⟩ := by
      rw [windowFor, Option.getD_none, usual]
      exact short
    exact classify_eq_of_le (le_windowFor (Nat.le_trans short room) _) byDefault rfl text

/-- The trigger of four words is read in every window of four words or more, and in no smaller one.
-/
theorem Dialect.classify_eq_of_longestPhrase_le_upkeep :
    let d := Games.Magic.dialect
    let text : Text := "At the beginning of your upkeep, draw 2 cards"
    d.vocabulary.longestPhrase = 4 ∧
    d.classify ⟨some 4, none⟩ text = d.classify ⟨some 9, none⟩ text ∧
    d.classify ⟨some 9, none⟩ text = d.classify ⟨none, none⟩ text ∧
    (d.classify ⟨some 4, none⟩ text).chain.hasComponent .trigger "at the beginning of" = true ∧
    (d.classify ⟨some 3, none⟩ text).chain.hasCategory .trigger = false := by
  dsimp only
  have longest : Games.Magic.dialect.vocabulary.longestPhrase = 4 := by decide +kernel
  obtain ⟨windows, games⟩ := classify_eq_of_longestPhrase_le
  refine ⟨longest, ?_, ?_, by decide +kernel, by decide +kernel⟩
  · exact windows Games.Magic.dialect _ none 4 9 (Nat.le_of_eq longest) (by rw [longest]; decide)
  · exact (games Games.Magic.game (by simp [Games.builtIn])).2.2 _ none 9 (by decide)

end AbilityText

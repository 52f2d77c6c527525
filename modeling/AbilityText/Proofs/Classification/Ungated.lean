/-
AbilityText.Proofs.Classification.Ungated — without gating, only numbers depend on what was read
before them.

A context decides on two things: whether the gating admits a phrase, and whether a number follows an
effect that takes one. So in a dialect without gating the same clauses make the same matches in all
contexts, numbers apart (`samePhrases_readClauses`).

A number that the policy takes is hidden from the tables behind it in the order, and one that it
does not take is left to them. So a phrase that opens with a number could be read in one context and
not in another; the built-in games have no such phrase (`Games.noNumberOpensPhrase`).
-/
import AbilityText.Proofs.Classification.Numbers

namespace AbilityText

/-! ## §1 Numbers open no phrase -/

namespace Dialect

variable {d : Dialect} {window : Nat} {category : Category} {word : Text} {rest : List Text}

/-- No phrase of the vocabulary opens with a word that the policy takes for a number. -/
def NoNumberOpensPhrase (d : Dialect) : Prop :=
  d.vocabulary.EntriesSatisfy fun entry =>
    (Text.words entry.1).head?.any d.numeric.accepts = false

instance (d : Dialect) : Decidable d.NoNumberOpensPhrase :=
  inferInstanceAs (Decidable (∀ table ∈ d.vocabulary.tables, ∀ entry ∈ table.entries,
    (Text.words entry.1).head?.any d.numeric.accepts = false))

theorem lookup_of_accepts (numbers : d.NoNumberOpensPhrase) (proper : Text.IsWord word)
    (accepted : d.numeric.accepts word = true) (more : List Text) :
    d.vocabulary.lookup category (Text.unwords (word :: more)) = none := by
  rw [Option.eq_none_iff_forall_ne_some]
  intro text found
  have opens := Vocabulary.EntriesSatisfy.of_lookup numbers found
  rw [Text.head?_words_unwords proper] at opens
  simp [accepted] at opens

/-- No table resolves a phrase that opens with a number. -/
theorem resolve?_of_accepts (numbers : d.NoNumberOpensPhrase) (proper : Text.IsWord word)
    (accepted : d.numeric.accepts word = true) (more : List Text) :
    d.resolve? category (word :: more) = none := by
  have lookup : ∀ more, d.vocabulary.lookup category (Text.unwords (word :: more)) = none :=
    lookup_of_accepts numbers proper accepted
  refine resolve?_eq_none_iff.2 ⟨lookup more, fun form singular => ?_⟩
  cases more with
  | nil =>
    -- The number itself would have to have a singular form.
    rw [List.getLast?_singleton, Option.getD_some,
      NumberPolicy.singulars_of_accepts accepted] at singular
    simp at singular
  | cons next more =>
    rw [List.dropLast_cons_cons, List.cons_append]
    exact lookup _

/-- No table claims a number. -/
theorem not_isTableClaim_of_accepts {ctx : Context} {claim : Claim}
    (numbers : d.NoNumberOpensPhrase) (proper : Text.IsWord word)
    (accepted : d.numeric.accepts word = true) :
    ¬d.IsTableClaim window ctx (word :: rest) claim := by
  intro isClaim
  obtain ⟨n, length⟩ : ∃ n, claim.length = n + 1 :=
    ⟨claim.length - 1, by have := isClaim.positive; omega⟩
  have resolved := isClaim.resolved
  rw [length, List.take_succ_cons, resolve?_of_accepts numbers proper accepted] at resolved
  simp at resolved

/-- Only the policy claims a number. -/
theorem bestClaim?_of_accepts {ctx : Context} {previous : Option Text} {claim : Claim}
    (numbers : d.NoNumberOpensPhrase) (proper : Text.IsWord word)
    (accepted : d.numeric.accepts word = true)
    (best : d.bestClaim? window ctx previous (word :: rest) = some claim) :
    claim.category ∈ d.numberCategories ∧ claim.length = 1 := by
  rcases bestClaim?_cases best with ⟨isClaim, -⟩ | ⟨⟨_, _, _, -, -, -, -, rfl⟩, -⟩
  · exact absurd isClaim (not_isTableClaim_of_accepts numbers proper accepted)
  · exact ⟨categoryBefore_mem_numberCategories _, rfl⟩

/-! ## §2 Other words in two contexts -/

section
variable (ungated : d.gating = none) (ctx ctx' : Context)
include ungated

theorem longestPhrase?_congr (words : List Text) (longest : Nat) :
    d.longestPhrase? ctx category words longest = d.longestPhrase? ctx' category words longest := by
  have admitted : ∀ ctx text, d.admits ctx category text = true := by
    intro ctx text
    rw [admits, ungated]
  induction longest with
  | zero => rfl
  | succ n ih => simp only [longestPhrase?, admitted, ih]

/-- A word that is no number is claimed alike in all contexts. -/
theorem bestClaim?_congr (plain : d.numeric.accepts word = false) (previous : Option Text) :
    d.bestClaim? window ctx previous (word :: rest) =
      d.bestClaim? window ctx' previous (word :: rest) := by
  have number : ∀ ctx, d.numberClaim? ctx (word :: rest) = none := by
    intro ctx
    unfold numberClaim?
    split
    · next cut _ =>
      obtain ⟨rfl, rfl⟩ := List.cons.inj cut
      simp [plain]
    · rfl
  have table : ∀ category, d.tableClaim? window ctx category (word :: rest) =
      d.tableClaim? window ctx' category (word :: rest) :=
    fun _ => longestPhrase?_congr ungated ctx ctx' _ _
  have step : d.stepClaim? window ctx (word :: rest) = d.stepClaim? window ctx' (word :: rest) := by
    funext step
    cases step with
    | table category => exact table category
    | number => exact (number ctx).trans (number ctx').symm
  simp only [bestClaim?, table, step]

end

/-! ## §3 Clauses in two contexts -/

/-- The matches that are no numbers. -/
def withoutNumbers (d : Dialect) (found : List Match) : List Match :=
  found.filter fun m => decide (m.category ∉ d.numberCategories)

/-- The findings have the same matches, numbers apart. -/
def SamePhrases (d : Dialect) (findings others : List Finding) : Prop :=
  d.withoutNumbers (findings.filterMap Finding.match?) =
    d.withoutNumbers (others.filterMap Finding.match?)

theorem withoutNumbers_append (found later : List Match) :
    d.withoutNumbers (found ++ later) = d.withoutNumbers found ++ d.withoutNumbers later :=
  List.filter_append ..

theorem SamePhrases.append {findings others later later' : List Finding}
    (h : d.SamePhrases findings others) (behind : d.SamePhrases later later') :
    d.SamePhrases (findings ++ later) (others ++ later') := by
  unfold SamePhrases at *
  rw [List.filterMap_append, List.filterMap_append, withoutNumbers_append, withoutNumbers_append,
    h, behind]

theorem SamePhrases.cons {findings others : List Finding} (finding : Finding)
    (h : d.SamePhrases findings others) :
    d.SamePhrases (finding :: findings) (finding :: others) := by
  have own : d.SamePhrases [finding] [finding] := rfl
  exact own.append h

/-- The match of a number does not count. -/
theorem samePhrases_cons_of_number {finding : Finding}
    (number : ∀ m, finding.match? = some m → m.category ∈ d.numberCategories)
    (findings : List Finding) : d.SamePhrases (finding :: findings) findings := by
  unfold SamePhrases withoutNumbers
  cases found : finding.match? with
  | none => rw [List.filterMap_cons_none found]
  | some m => simp [List.filterMap_cons_some found, number m found]

/-- A number is passed over, whether it is claimed or dropped. -/
theorem exists_samePhrases_of_accepts (numbers : d.NoNumberOpensPhrase) (proper : Text.IsWord word)
    (accepted : d.numeric.accepts word = true) (ctx : Context) (previous : Option Text) :
    ∃ next, d.SamePhrases (d.readWords window ctx previous 0 (word :: rest))
      (d.readWords window next (some word) 0 rest) := by
  rw [readWords]
  split
  · exact ⟨ctx, rfl⟩
  · next claim best =>
    obtain ⟨number, length⟩ := bestClaim?_of_accepts numbers proper accepted best
    simp only [length]
    refine ⟨_, samePhrases_cons_of_number (fun m found => ?_) _⟩
    rw [(Finding.match?_ofPhrase found).2.1]
    exact number

theorem samePhrases_readWords (ungated : d.gating = none) (numbers : d.NoNumberOpensPhrase)
    {words : List Text} (proper : ∀ w ∈ words, Text.IsWord w) (ctx ctx' : Context)
    (previous : Option Text) (taken : Nat) :
    d.SamePhrases (d.readWords window ctx previous taken words)
      (d.readWords window ctx' previous taken words) := by
  induction words generalizing ctx ctx' previous taken with
  | nil => simp only [readWords]; rfl
  | cons word rest ih =>
    obtain ⟨first, proper⟩ := List.forall_mem_cons.1 proper
    cases taken with
    | succ taken => exact ih proper ctx ctx' (some word) taken
    | zero =>
      -- A number is passed over in both contexts, and any other word is claimed alike.
      cases kind : d.numeric.accepts word with
      | true =>
        obtain ⟨next, same⟩ := exists_samePhrases_of_accepts numbers first kind ctx previous
        obtain ⟨next', same'⟩ := exists_samePhrases_of_accepts numbers first kind ctx' previous
        exact same.trans ((ih proper next next' (some word) 0).trans same'.symm)
      | false =>
        rw [readWords, readWords, bestClaim?_congr ungated ctx ctx' kind]
        split
        · exact (ih proper ctx ctx' (some word) 0).cons _
        · exact (ih proper _ _ (some word) _).cons _

theorem samePhrases_readClause (ungated : d.gating = none) (numbers : d.NoNumberOpensPhrase)
    {words : List Text} (proper : ∀ w ∈ words, Text.IsWord w) (ctx ctx' : Context) :
    d.SamePhrases (d.readClause window ctx words) (d.readClause window ctx' words) := by
  unfold readClause
  split
  · rfl
  · split
    · rfl
    · exact samePhrases_readWords ungated numbers proper ctx ctx' none 0

/-- **Without gating, clauses make the same matches in all contexts, numbers apart.** -/
theorem samePhrases_readClauses (ungated : d.gating = none) (numbers : d.NoNumberOpensPhrase)
    (ctx ctx' : Context) (clauses : List Text) :
    d.SamePhrases ((d.readClauses window ctx clauses).flatMap ClauseReading.findings)
      ((d.readClauses window ctx' clauses).flatMap ClauseReading.findings) := by
  induction clauses generalizing ctx ctx' with
  | nil => rfl
  | cons clause rest ih =>
    have proper : ∀ w ∈ Clause.words clause, Text.IsWord w :=
      fun _ member => (Clause.isLowerWord_of_mem_words member).1
    simp only [readClauses, List.flatMap_cons]
    exact (samePhrases_readClause ungated numbers proper ctx ctx').append (ih _ _)

end Dialect

/-- In the built-in games no phrase opens with a number. -/
theorem Games.noNumberOpensPhrase : ∀ game ∈ builtIn, game.dialect.NoNumberOpensPhrase := by
  decide +kernel

end AbilityText

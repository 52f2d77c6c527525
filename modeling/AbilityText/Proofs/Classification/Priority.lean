/-
AbilityText.Proofs.Classification.Priority — which claim wins at a position.

A table admits a phrase when it resolves the phrase and the gating lets the text through
(`Admits`). A step claims the longest such phrase, or a number (`StepClaims`), and the claim that
wins is that of the type after a subject marker, or else that of the first step that has one
(`Wins`). `Wins` speaks of all lengths and steps at once; the search goes through them one by one,
from the longest phrase down, and finds just that (`bestClaim?_eq_some_iff`). So a longer phrase
that the gating turns away hides neither a shorter one nor a later step.
-/
import AbilityText.Proofs.Classification.Reading
import AbilityText.Proofs.NumberPolicy

namespace AbilityText.Dialect

variable {d : Dialect} {window : Nat} {ctx : Context} {words : List Text}

/-! ## §1 What a phrase stands for -/

/-- What a table makes of a phrase: the text of the phrase as it stands, or else the text of the
phrase with the first singular form of its last word that the table knows. -/
inductive Resolves (d : Dialect) (category : Category) (phrase : List Text) (text : Text) : Prop
  | exact : d.vocabulary.lookup category (Text.unwords phrase) = some text →
      Resolves d category phrase text
  | singular {lead : List Text} {last form : Text} {skipped later : List Text} :
      phrase = lead ++ [last] →
      d.vocabulary.lookup category (Text.unwords phrase) = none →
      Clause.singulars last = skipped ++ form :: later →
      (∀ s ∈ skipped, d.vocabulary.lookup category (Text.unwords (lead ++ [s])) = none) →
      d.vocabulary.lookup category (Text.unwords (lead ++ [form])) = some text →
      Resolves d category phrase text

theorem resolve?_eq_some_iff {category : Category} {phrase : List Text} {text : Text} :
    d.resolve? category phrase = some text ↔ d.Resolves category phrase text := by
  rw [resolve?]
  constructor
  · intro resolved
    split at resolved
    · next found => exact .exact (found.trans resolved)
    · next missing =>
      obtain ⟨skipped, form, later, forms, found, none⟩ := List.findSome?_eq_some_iff.1 resolved
      rcases List.eq_nil_or_concat phrase with rfl | ⟨lead, last, rfl⟩
      · simp [Clause.singulars, Text.before?, Text.after?] at forms
      · rw [List.concat_eq_append] at missing forms found none ⊢
        rw [List.getLast?_concat, Option.getD_some] at forms
        rw [List.dropLast_concat] at found none
        exact .singular rfl missing forms none found
  · rintro (found | ⟨rfl, missing, forms, none, found⟩)
    · rw [found]
    · rw [missing]
      dsimp only
      rw [List.getLast?_concat, Option.getD_some, List.dropLast_concat]
      exact List.findSome?_eq_some_iff.2 ⟨_, _, _, forms, found, none⟩

/-! ## §2 What a step claims -/

/-- The phrase of this length stands for this text in the table, and the gating lets it through. -/
structure Admits (d : Dialect) (window : Nat) (ctx : Context) (words : List Text)
    (category : Category) (length : Nat) (text : Text) : Prop where
  positive : 1 ≤ length
  inWindow : length ≤ window
  inWords : length ≤ words.length
  resolved : d.Resolves category (words.take length) text
  admitted : d.admits ctx category text = true

/-- What a step claims at a position: the longest phrase that its table admits, or a number that
the policy takes after the last effect, with the category that the next word gives it. -/
inductive StepClaims (d : Dialect) (window : Nat) (ctx : Context) (words : List Text) :
    Step → Claim → Prop
  | table {category : Category} {length : Nat} {text : Text} :
      d.Admits window ctx words category length text →
      (∀ longer other, d.Admits window ctx words category longer other → longer ≤ length) →
      StepClaims d window ctx words (.table category) ⟨category, text, length⟩
  | number {word effect : Text} {later : List Text} {category : Category} :
      words = word :: later → ctx.effect = some effect → effect ∈ d.numeric.effects →
      d.numeric.Takes word → d.numeric.IsCategoryBefore later.head? category →
      StepClaims d window ctx words .number ⟨category, word, 1⟩

/-- The search from the longest phrase down stops at a phrase no shorter than any that is admitted.
-/
theorem exists_longestPhrase? {category : Category} {length : Nat} {text : Text}
    (positive : 1 ≤ length) (resolved : d.resolve? category (words.take length) = some text)
    (admitted : d.admits ctx category text = true) :
    ∀ {longest : Nat}, length ≤ longest →
      ∃ claim, d.longestPhrase? ctx category words longest = some claim ∧ length ≤ claim.length
  | 0, bound => by omega
  | longest + 1, bound => by
    rw [longestPhrase?]
    rcases Nat.lt_or_eq_of_le bound with shorter | rfl
    · -- A phrase of all the words stops the search, or it goes on below.
      have below := exists_longestPhrase? positive resolved admitted (Nat.le_of_lt_succ shorter)
      split
      · split
        · exact ⟨_, rfl, bound⟩
        · exact below
      · exact below
    · rw [resolved]
      dsimp only
      rw [if_pos admitted]
      exact ⟨_, rfl, Nat.le_refl _⟩

/-- A table with an admitted phrase has a claim, which is no shorter. -/
theorem Admits.exists_tableClaim? {category : Category} {length : Nat} {text : Text}
    (h : d.Admits window ctx words category length text) :
    ∃ claim, d.tableClaim? window ctx category words = some claim ∧ length ≤ claim.length :=
  exists_longestPhrase? h.positive (resolve?_eq_some_iff.2 h.resolved) h.admitted
    (Nat.le_min.2 ⟨h.inWindow, h.inWords⟩)

theorem admits_of_tableClaim? {category : Category} {claim : Claim}
    (h : d.tableClaim? window ctx category words = some claim) :
    claim.category = category ∧ d.Admits window ctx words category claim.length claim.text := by
  obtain ⟨rfl, isClaim⟩ := tableClaim?_eq_some h
  exact ⟨rfl, isClaim.positive, isClaim.inWindow, isClaim.inWords,
    resolve?_eq_some_iff.1 isClaim.resolved, isClaim.admitted⟩

/-- **A step claims what is said of it.** -/
theorem stepClaim?_eq_some_iff {step : Step} {claim : Claim} :
    d.stepClaim? window ctx words step = some claim ↔ d.StepClaims window ctx words step claim := by
  constructor
  · intro claimed
    cases step with
    | table category =>
      obtain ⟨rfl, admits⟩ := admits_of_tableClaim? claimed
      refine .table admits fun longer other found => ?_
      obtain ⟨_, same, bound⟩ := found.exists_tableClaim?
      exact Option.some.inj (same.symm.trans claimed) ▸ bound
    | number =>
      obtain ⟨word, later, effect, cut, known, listed, accepted, rfl⟩ :=
        numberClaim?_eq_some claimed
      exact .number cut known (List.contains_iff_mem.1 listed) (NumberPolicy.accepts_iff.1 accepted)
        (NumberPolicy.isCategoryBefore_iff.2 rfl)
  · rintro (⟨admits, longest⟩ | ⟨rfl, known, listed, takes, given⟩)
    · next category length text =>
      obtain ⟨found, same, bound⟩ := admits.exists_tableClaim?
      obtain ⟨rfl, own⟩ := admits_of_tableClaim? same
      have length : found.length = length := Nat.le_antisymm (longest _ _ own) bound
      have texts : found.text = text := by
        have resolved := resolve?_eq_some_iff.2 own.resolved
        rw [length, resolve?_eq_some_iff.2 admits.resolved] at resolved
        exact (Option.some.inj resolved).symm
      rw [stepClaim?, same, ← length, ← texts]
    · have takesNumber : d.takesNumber _ = true := List.contains_iff_mem.2 listed
      simp [stepClaim?, numberClaim?, known, takesNumber, NumberPolicy.accepts_iff.2 takes,
        NumberPolicy.isCategoryBefore_iff.1 given]

/-- A table step has a claim just when some phrase is admitted. -/
theorem exists_stepClaims_table_iff {category : Category} :
    (∃ claim, d.StepClaims window ctx words (.table category) claim) ↔
      ∃ length text, d.Admits window ctx words category length text := by
  constructor
  · rintro ⟨_, admits, -⟩
    exact ⟨_, _, admits⟩
  · rintro ⟨length, text, admits⟩
    obtain ⟨claim, claimed, -⟩ := admits.exists_tableClaim?
    exact ⟨claim, stepClaim?_eq_some_iff.1 claimed⟩

/-! ## §3 The claim that wins -/

/-- Is the word before a position a subject marker? -/
def AfterMarker (d : Dialect) (before : List Text) : Prop :=
  ∃ word, before.getLast? = some word ∧ word ∈ d.subjectMarkers

/-- Which claim wins behind these words and before those: the type behind a subject marker, and
where there is none, what the first step claims that claims anything. -/
inductive Wins (d : Dialect) (window : Nat) (ctx : Context) (before words : List Text)
    (claim : Claim) : Prop
  | subject : d.AfterMarker before → d.StepClaims window ctx words (.table .type) claim →
      Wins d window ctx before words claim
  | step {earlier later : List Step} {step : Step} :
      (d.AfterMarker before → ∀ other, ¬d.StepClaims window ctx words (.table .type) other) →
      d.order = earlier ++ step :: later →
      (∀ first ∈ earlier, ∀ other, ¬d.StepClaims window ctx words first other) →
      d.StepClaims window ctx words step claim → Wins d window ctx before words claim

theorem any_contains_iff {before : List Text} :
    before.getLast?.any d.subjectMarkers.contains = true ↔ d.AfterMarker before := by
  rw [Option.any_eq_true]
  exact exists_congr fun word => and_congr_right fun _ => List.contains_iff_mem

theorem stepClaim?_eq_none_iff {step : Step} : d.stepClaim? window ctx words step = none ↔
    ∀ claim, ¬d.StepClaims window ctx words step claim := by
  rw [Option.eq_none_iff_forall_ne_some]
  exact forall_congr' fun claim => not_congr stepClaim?_eq_some_iff

/-- The search looks for a type behind a marker, and then goes through the steps. -/
theorem bestClaim?_eq {before : List Text} [Decidable (d.AfterMarker before)] :
    d.bestClaim? window ctx before.getLast? words =
      ((if d.AfterMarker before then d.stepClaim? window ctx words (.table .type) else none).or
        (d.order.findSome? (d.stepClaim? window ctx words))) := by
  simp only [bestClaim?, any_contains_iff]
  split <;> simp_all [stepClaim?]

/-- **The search finds the claim that wins.** -/
theorem bestClaim?_eq_some_iff {before : List Text} {claim : Claim} :
    d.bestClaim? window ctx before.getLast? words = some claim ↔
      d.Wins window ctx before words claim := by
  classical
  have subject : ∀ found : Claim,
      (if d.AfterMarker before then d.stepClaim? window ctx words (.table .type) else none) =
        some found ↔
      d.AfterMarker before ∧ d.StepClaims window ctx words (.table .type) found := by
    intro found
    rw [← stepClaim?_eq_some_iff]
    split <;> simp [*]
  have noSubject :
      (if d.AfterMarker before then d.stepClaim? window ctx words (.table .type) else none) =
        none ↔
      (d.AfterMarker before → ∀ other, ¬d.StepClaims window ctx words (.table .type) other) := by
    rw [← stepClaim?_eq_none_iff]
    split <;> simp [*]
  rw [bestClaim?_eq, Option.or_eq_some_iff, subject, noSubject, List.findSome?_eq_some_iff]
  constructor
  · rintro (⟨marked, claimed⟩ | ⟨free, earlier, step, later, order, claimed, none⟩)
    · exact .subject marked claimed
    · exact .step free order (fun first member => stepClaim?_eq_none_iff.1 (none first member))
        (stepClaim?_eq_some_iff.1 claimed)
  · rintro (⟨marked, claimed⟩ | ⟨free, order, none, claimed⟩)
    · exact .inl ⟨marked, claimed⟩
    · exact .inr ⟨free, _, _, _, order, stepClaim?_eq_some_iff.2 claimed,
        fun first member => stepClaim?_eq_none_iff.2 (none first member)⟩

/-- No claim wins where neither a type behind a marker nor any step claims anything. -/
theorem bestClaim?_eq_none_iff {before : List Text} :
    d.bestClaim? window ctx before.getLast? words = none ↔
      (d.AfterMarker before → ∀ claim, ¬d.StepClaims window ctx words (.table .type) claim) ∧
        ∀ step ∈ d.order, ∀ claim, ¬d.StepClaims window ctx words step claim := by
  classical
  rw [bestClaim?_eq, Option.or_eq_none_iff, List.findSome?_eq_none_iff]
  simp only [ite_eq_right_iff, stepClaim?_eq_none_iff]

/-! ## §4 Reading by the claims that win -/

/-- **Which claim wins, and how reading goes on behind it.** At every position, given by the words
of the clause before and behind it, the search finds the claim that wins and none other, and finds
nothing just where neither a type behind a subject marker nor any step claims anything; a table
claims something just when it admits some phrase. A claim that wins takes at least one of the words
that are left and no more than there are, and reading goes on behind them; a word without a claim is
dropped, and reading goes on at the next one. -/
theorem bestClaim?_wins (d : Dialect) (window : Nat) (ctx : Context) (before words : List Text) :
    (∀ claim, d.bestClaim? window ctx before.getLast? words = some claim ↔
      d.Wins window ctx before words claim) ∧
    (d.bestClaim? window ctx before.getLast? words = none ↔
      (d.AfterMarker before → ∀ claim, ¬d.StepClaims window ctx words (.table .type) claim) ∧
        ∀ step ∈ d.order, ∀ claim, ¬d.StepClaims window ctx words step claim) ∧
    (∀ category, (∃ claim, d.StepClaims window ctx words (.table category) claim) ↔
      ∃ length text, d.Admits window ctx words category length text) ∧
    (∀ claim, d.Wins window ctx before words claim →
      1 ≤ claim.length ∧ claim.length ≤ words.length ∧
      let phrase := words.take claim.length
      let finding := Finding.ofPhrase (Text.unwords phrase) claim.category claim.text
      d.readWords window ctx before.getLast? 0 words =
        finding :: d.readWords window (ctx.after finding) (before ++ phrase).getLast? 0
          (words.drop claim.length)) ∧
    ∀ word rest, words = word :: rest → (∀ claim, ¬d.Wins window ctx before words claim) →
      d.readWords window ctx before.getLast? 0 words =
        .dropped word :: d.readWords window ctx (before ++ [word]).getLast? 0 rest := by
  refine ⟨fun _ => bestClaim?_eq_some_iff, bestClaim?_eq_none_iff,
    fun _ => exists_stepClaims_table_iff, ?_, ?_⟩
  · intro claim wins
    have best := bestClaim?_eq_some_iff.2 wins
    obtain ⟨positive, bound⟩ := length_of_bestClaim? best
    refine ⟨positive, bound, ?_⟩
    have nonempty : words.take claim.length ≠ [] := by
      rw [ne_eq, List.take_eq_nil_iff, not_or]
      exact ⟨by omega, List.ne_nil_of_length_pos (by omega)⟩
    dsimp only
    rw [readWords_of_claim best, List.getLast?_append_of_ne_nil _ nonempty]
  · rintro word rest rfl noClaim
    have none : d.bestClaim? window ctx before.getLast? (word :: rest) = none := by
      rw [Option.eq_none_iff_forall_ne_some]
      exact fun claim best => noClaim claim (bestClaim?_eq_some_iff.1 best)
    rw [readWords, none, List.getLast?_concat]

/-- Two types of which the longer one is for a single effect, which takes numbers too. -/
def fireDialect : Dialect where
  key := "fire"
  name := "Fire"
  vocabulary := Vocabulary.empty |>.words .type ["fire", "fire spell"] |>.words .effect ["counter"]
  order := [.table .effect, .table .type, .number]
  numeric := { effects := ["counter"], units := [("spark", .energy)] }
  gating := some
    { spellEffects := ["counter"], spellTypes := ["fire spell"], randomEffects := []
      anotherTypes := [] }

/-- The gating turns the longer type away, and the shorter one wins and takes one word; the plural
behind it has no claim and is dropped. Behind the effect the longer type wins, in the plural too.
There a number wins as well, where it is within the bounds, with a plus in front of it and the
category of the unit behind it. -/
theorem bestClaim?_wins_fire :
    let words : List Text := ["fire", "spells"]
    let numbers : List Text := ["+2", "sparks"]
    let countered : Context := { effect := some "counter" }
    fireDialect.Wins 4 {} [] words ⟨.type, "fire", 1⟩ ∧
      fireDialect.Wins 4 countered ["counter"] words ⟨.type, "fire spell", 2⟩ ∧
      fireDialect.readWords 4 {} none 0 words =
        .ofPhrase "fire" .type "fire" ::
          fireDialect.readWords 4 { types := ["fire"] } (some "fire") 0 ["spells"] ∧
      (∀ claim, ¬fireDialect.Wins 4 { types := ["fire"] } ["fire"] ["spells"] claim) ∧
      fireDialect.readWords 4 { types := ["fire"] } (some "fire") 0 ["spells"] =
        [.dropped "spells"] ∧
      fireDialect.Wins 4 countered ["counter"] numbers ⟨.energy, "+2", 1⟩ ∧
      fireDialect.readWords 4 countered (some "counter") 0 numbers =
        .ofPhrase "+2" .energy "+2" ::
          fireDialect.readWords 4 countered (some "+2") 0 ["sparks"] ∧
      ∀ claim, ¬fireDialect.Wins 4 countered ["counter"] ["+16", "sparks"] claim := by
  dsimp only
  obtain ⟨wins, -, -, taken, -⟩ := bestClaim?_wins fireDialect 4 {} [] ["fire", "spells"]
  obtain ⟨winsBehind, -⟩ :=
    bestClaim?_wins fireDialect 4 { effect := some "counter" } ["counter"] ["fire", "spells"]
  obtain ⟨winsLast, -, -, -, dropped⟩ :=
    bestClaim?_wins fireDialect 4 { types := ["fire"] } ["fire"] ["spells"]
  obtain ⟨winsNumber, -, -, takenNumber, -⟩ :=
    bestClaim?_wins fireDialect 4 { effect := some "counter" } ["counter"] ["+2", "sparks"]
  obtain ⟨winsLarge, -⟩ :=
    bestClaim?_wins fireDialect 4 { effect := some "counter" } ["counter"] ["+16", "sparks"]
  have short : fireDialect.Wins 4 {} [] ["fire", "spells"] ⟨.type, "fire", 1⟩ :=
    (wins _).1 (by decide)
  have number : fireDialect.Wins 4 { effect := some "counter" } ["counter"] ["+2", "sparks"]
      ⟨.energy, "+2", 1⟩ := (winsNumber _).1 (by decide)
  have noClaim : ∀ claim, ¬fireDialect.Wins 4 { types := ["fire"] } ["fire"] ["spells"] claim := by
    have none : fireDialect.bestClaim? 4 { types := ["fire"] } (["fire"] : List Text).getLast?
        ["spells"] = none := by decide
    intro claim last
    rw [← winsLast, none] at last
    cases last
  have noLarge : ∀ claim, ¬fireDialect.Wins 4 { effect := some "counter" } ["counter"]
      ["+16", "sparks"] claim := by
    have none : fireDialect.bestClaim? 4 { effect := some "counter" }
        (["counter"] : List Text).getLast? ["+16", "sparks"] = none := by decide
    intro claim large
    rw [← winsLarge, none] at large
    cases large
  exact ⟨short, (winsBehind _).1 (by decide), (taken _ short).2.2, noClaim,
    dropped _ _ rfl noClaim, number, (takenNumber _ number).2.2, noLarge⟩

end AbilityText.Dialect

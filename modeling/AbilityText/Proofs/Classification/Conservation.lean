/-
AbilityText.Proofs.Classification.Conservation — no word is lost, and none is read twice.

A list of words is accounted for by matches and dropped words when every word, in order, is dropped
or lies in the phrase of the next match (`Accounts`). The reading of a list of words accounts for it
(`accounts_of_wordsRead`), hence so does the reading of a clause, and a run accounts for its clauses
one by one (`classify_accounts`).

A match with a blank canonical text would leave no trace of its phrase. So the vocabulary may not
have one.
-/
import AbilityText.Proofs.Classification.Reading
import AbilityText.Proofs.Games

namespace AbilityText

open Text (IsWord)

/-! ## §1 Accounts of words -/

/-- The words, in order, are the words of the phrases of matches and the dropped words. -/
inductive Accounts : List Text → List Match → List Text → Prop
  | nil : Accounts [] [] []
  | matched {phrase rest : List Text} {m : Match} {found : List Match} {dropped : List Text} :
      phrase ≠ [] → Text.words m.phrase = phrase → Accounts rest found dropped →
      Accounts (phrase ++ rest) (m :: found) dropped
  | dropped {word : Text} {rest : List Text} {found : List Match} {dropped : List Text} :
      Accounts rest found dropped → Accounts (word :: rest) found (word :: dropped)

/-- The words of the clauses are accounted for clause by clause, so no phrase lies in two. -/
inductive AccountsByClause : List Text → List Match → List Text → Prop
  | nil : AccountsByClause [] [] []
  | cons {clause : Text} {clauses : List Text} {found later : List Match}
      {dropped others : List Text} :
      Accounts (Clause.words clause) found dropped → AccountsByClause clauses later others →
      AccountsByClause (clause :: clauses) (found ++ later) (dropped ++ others)

namespace Accounts

variable {words : List Text} {found : List Match} {dropped : List Text}

theorem append {words' : List Text} {found' : List Match} {dropped' : List Text}
    (h : Accounts words found dropped) (h' : Accounts words' found' dropped') :
    Accounts (words ++ words') (found ++ found') (dropped ++ dropped') := by
  induction h with
  | nil => exact h'
  | matched nonempty same _ ih =>
    rw [List.append_assoc]
    exact .matched nonempty same ih
  | dropped _ ih => exact .dropped ih

/-- A match accounts for all words of its phrase. -/
theorem single {m : Match} (h : Text.words m.phrase ≠ []) :
    Accounts (Text.words m.phrase) [m] [] := by
  have := Accounts.matched h rfl .nil
  rwa [List.append_nil] at this

/-- **Every word is accounted for once.** -/
theorem perm (h : Accounts words found dropped) :
    words.Perm (found.flatMap (fun m => Text.words m.phrase) ++ dropped) := by
  induction h with
  | nil => exact .refl []
  | matched _ same _ ih =>
    rw [List.flatMap_cons, List.append_assoc, same]
    exact ih.append_left _
  | dropped _ ih => exact (ih.cons _).trans List.perm_middle.symm

end Accounts

/-- What is accounted for clause by clause is accounted for as a whole. -/
theorem AccountsByClause.flatten {clauses : List Text} {found : List Match} {dropped : List Text}
    (h : AccountsByClause clauses found dropped) :
    Accounts (clauses.flatMap Clause.words) found dropped := by
  induction h with
  | nil => exact .nil
  | cons first _ ih => exact first.append ih

namespace Dialect

variable {d : Dialect} {window : Nat}

/-! ## §2 The reading of a clause -/

/-- Without blank canonical texts, every claim on words proper makes a match. -/
theorem isBlank_of_bestClaim? {ctx : Context} {previous : Option Text} {words : List Text}
    {claim : Claim} (solid : d.vocabulary.HasNoBlank) (proper : ∀ w ∈ words, IsWord w)
    (h : d.bestClaim? window ctx previous words = some claim) :
    Text.isBlank claim.text = false := by
  rcases bestClaim?_cases h with ⟨isClaim, -⟩ | ⟨⟨word, later, effect, rfl, -, -, -, rfl⟩, -⟩
  · rcases resolve?_eq_some isClaim.resolved with found | ⟨form, -, found⟩
    · exact solid.of_lookup found
    · exact solid.of_lookup found
  · exact Text.isBlank_of_isWord (proper word (by simp))

/-- **Words are accounted for by the matches and the dropped words of their reading.** -/
theorem accounts_of_wordsRead {ctx : Context} {previous : Option Text} {words : List Text}
    {findings : List Finding} (solid : d.vocabulary.HasNoBlank) (proper : ∀ w ∈ words, IsWord w)
    (h : WordsRead d window ctx previous words findings) :
    Accounts words (findings.filterMap Finding.match?) (findings.filterMap Finding.dropped?) := by
  induction h with
  | nil => exact .nil
  | @dropped ctx previous word rest findings _ _ ih =>
    exact .dropped (ih fun w hw => proper w (List.mem_cons_of_mem word hw))
  | @claimed ctx previous phrase rest claim finding findings best short made _ ih =>
    obtain ⟨c, matched⟩ := Finding.ofPhrase_of_not_blank (Text.unwords phrase) claim.category
      (isBlank_of_bestClaim? solid proper best)
    rw [made, matched]
    refine .matched ?_ ?_ (ih fun w hw => proper w (List.mem_append_right phrase hw))
    · rintro rfl
      have positive := (length_of_bestClaim? best).1
      rw [short] at positive
      simp at positive
    · exact Text.words_unwords fun w hw => proper w (List.mem_append_left rest hw)

theorem accounts_of_clauseRead {ctx : Context} {clause : Text} {findings : List Finding}
    (solid : d.vocabulary.HasNoBlank)
    (h : ClauseRead d window ctx (Clause.words clause) findings) :
    Accounts (Clause.words clause) (findings.filterMap Finding.match?)
      (findings.filterMap Finding.dropped?) := by
  have proper : ∀ w ∈ Clause.words clause, IsWord w :=
    fun _ hw => (Clause.isLowerWord_of_mem_words hw).1
  generalize Clause.words clause = words at h proper
  cases h with
  | empty => exact .nil
  | @captured _ category _ nonempty _ made =>
    have whole : Text.words (Text.unwords words) = words := Text.words_unwords proper
    obtain ⟨c, matched⟩ := Finding.ofPhrase_of_not_blank (Text.unwords words) category
      (Text.isBlank_unwords proper nonempty)
    rw [made, matched]
    have single := Accounts.single (m := ⟨Text.unwords words, c⟩) (by rw [whole]; exact nonempty)
    rwa [whole] at single
  | byWords read => exact accounts_of_wordsRead solid proper read

/-! ## §3 The reading of a text -/

/-- A list of readings accounts for its clauses. -/
theorem accountsByClause_of_clauseReads (solid : d.vocabulary.HasNoBlank)
    {readings : List ClauseReading}
    (h : ∀ reading ∈ readings, reading.words = Clause.words reading.clause ∧
      ∃ ctx, ClauseRead d window ctx reading.words reading.findings) :
    AccountsByClause (readings.map ClauseReading.clause)
      (readings.flatMap fun reading => reading.findings.filterMap Finding.match?)
      (readings.flatMap fun reading => reading.findings.filterMap Finding.dropped?) := by
  induction readings with
  | nil => exact .nil
  | cons reading rest ih =>
    obtain ⟨same, ctx, read⟩ := h reading (by simp)
    rw [same] at read
    exact .cons (accounts_of_clauseRead solid read)
      (ih fun later member => h later (List.mem_cons_of_mem reading member))

variable (options : ParseOptions) (text : Text)

/-- The matches of a run that come from its clauses. -/
def matchesInClauses (d : Dialect) (options : ParseOptions) (text : Text) : List Match :=
  (d.readingOf options text).clauses.flatMap fun reading =>
    reading.findings.filterMap Finding.match?

theorem tokens_eq_length_words : (d.classify options text).trace.tokens =
    ((d.classify options text).trace.clauses.flatMap Clause.words).length := by
  have own : (d.readingOf options text).clauses.map ClauseReading.words =
      (d.readingOf options text).clauses.map fun reading => Clause.words reading.clause :=
    List.map_congr_left fun _ member => (clauseRead_of_mem_readingOf options text member).1
  rw [tokens_classify, clauses_classify, List.flatMap_map, List.flatMap_def, own, List.flatMap_def]

theorem accountsByClause_classify (solid : d.vocabulary.HasNoBlank) :
    AccountsByClause (d.classify options text).trace.clauses
      (d.matchesInClauses options text) (d.classify options text).trace.dropped := by
  rw [clauses_classify, dropped_classify]
  exact accountsByClause_of_clauseReads solid fun _ => clauseRead_of_mem_readingOf options text

/-- Every word is in a matched phrase or dropped, and no word is counted twice. -/
theorem tokens_eq_matched_add_dropped (solid : d.vocabulary.HasNoBlank) :
    (d.classify options text).trace.tokens =
      ((d.matchesInClauses options text).flatMap fun m => Text.words m.phrase).length +
        (d.classify options text).trace.dropped.length := by
  rw [tokens_eq_length_words, (accountsByClause_classify options text solid).flatten.perm.length_eq,
      List.length_append]

/-- **Conservation of words.** In every run of a dialect without blank canonical texts, the words of
the clauses are counted, and they are accounted for by the dropped words and by the matches behind
those of the keywords that open the text, clause by clause. Each of these keywords has a colon of
its own. The built-in games are such dialects. -/
theorem classify_conserves_words :
    (∀ game ∈ Games.builtIn, game.dialect.vocabulary.HasNoBlank) ∧
    ∀ d : Dialect, d.vocabulary.HasNoBlank → ∀ (options : ParseOptions) (text : Text),
      let trace := (d.classify options text).trace
      let words := trace.clauses.flatMap Clause.words
      let opened := (d.openingFindings text).filterMap Finding.match?
      trace.tokens = words.length ∧ opened.length ≤ text.count ':' ∧
        ∃ inClauses, trace.found = opened ++ inClauses ∧
          Accounts words inClauses trace.dropped ∧
          AccountsByClause trace.clauses inClauses trace.dropped := by
  refine ⟨Games.vocabulary_hasNoBlank, fun d solid options text => ?_⟩
  have account := accountsByClause_classify options text solid
  refine ⟨tokens_eq_length_words options text, ?_, d.matchesInClauses options text,
    found_classify options text, account.flatten, account⟩
  calc ((d.openingFindings text).filterMap Finding.match?).length
      ≤ (d.openingFindings text).length := List.length_filterMap_le _ _
    _ = (d.openingsOf (Text.lower (Text.trim text))).1.length := List.length_map _
    _ ≤ text.count ':' := length_openingsOf_le text

/-- One word of three is dropped, and one keyword stands before the only colon. -/
theorem classify_conserves_words_battlecry :
    let dialect := Games.Hearthstone.dialect
    let text : Text := "Battlecry: Deal 3 damage"
    let trace := (dialect.classify {} text).trace
    let opened := (dialect.openingFindings text).filterMap Finding.match?
    dialect.vocabulary.HasNoBlank ∧ trace.tokens = 3 ∧ opened.length ≤ 1 ∧
      ∃ inClauses, trace.found = opened ++ inClauses ∧
        Accounts (["deal", "3", "damage"] : List Text) inClauses (["damage"] : List Text) := by
  intro dialect text trace opened
  have solid : dialect.vocabulary.HasNoBlank :=
    classify_conserves_words.1 Games.Hearthstone.game (by simp [Games.builtIn])
  obtain ⟨tokens, few, inClauses, found, account, -⟩ :=
    classify_conserves_words.2 dialect solid {} text
  have words : trace.clauses.flatMap Clause.words = (["deal", "3", "damage"] : List Text) := by
    decide +kernel
  have dropped : trace.dropped = (["damage"] : List Text) := by decide +kernel
  have colons : text.count ':' = 1 := by decide +kernel
  rw [words] at tokens account
  rw [dropped] at account
  rw [colons] at few
  exact ⟨solid, tokens, few, inClauses, found, account⟩

end Dialect

end AbilityText

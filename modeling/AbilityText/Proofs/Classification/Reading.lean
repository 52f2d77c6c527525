/-
AbilityText.Proofs.Classification.Reading — how a dialect comes to its findings, step by step.

§1 says what makes a claim on the words at a position: a phrase that a table resolves and the gating
admits, or a number that the policy takes (`bestClaim?_cases`).

§2 says how a list of words is read (`WordsRead`): either the first word is dropped, or a claimed
phrase is taken, and reading goes on behind it. What holds of all findings in a clause is an
induction on that relation.

§3 and §4 do the same for clauses and for the keywords that open a text.
-/
import AbilityText.Classification
import AbilityText.Proofs.Chain
import AbilityText.Proofs.Clause
import AbilityText.Proofs.Vocabulary

namespace AbilityText

namespace Trace

/-- The record without the mark of a discarded chain. -/
def unmarked (trace : Trace) : Trace := { trace with discarded := false }

variable (trace : Trace)

theorem clauses_unmarked : trace.unmarked.clauses = trace.clauses := rfl

theorem tokens_unmarked : trace.unmarked.tokens = trace.tokens := rfl

theorem found_unmarked : trace.unmarked.found = trace.found := rfl

theorem dropped_unmarked : trace.unmarked.dropped = trace.dropped := rfl

theorem shortcut_unmarked : trace.unmarked.shortcut = trace.shortcut := rfl

end Trace

namespace Finding

/-- A text with a word in it makes a match. -/
theorem ofPhrase_of_not_blank (phrase : Text) (category : Category) {text : Text}
    (h : Text.isBlank text = false) :
    ∃ c : Component, ofPhrase phrase category text = .matched ⟨phrase, c⟩ := by
  obtain ⟨c, made, -⟩ := Component.new_of_not_blank category h
  exact ⟨c, by rw [ofPhrase, made]⟩

theorem match?_ofPhrase {phrase : Text} {category : Category} {text : Text} {m : Match}
    (h : (ofPhrase phrase category text).match? = some m) :
    m.phrase = phrase ∧ m.category = category ∧ m.text = Text.normalize text := by
  unfold ofPhrase at h
  split at h
  · next c made =>
    obtain rfl : ⟨phrase, c⟩ = m := Option.some.inj h
    exact ⟨rfl, Component.new_eq_ok made⟩
  · simp [match?] at h

/-- A phrase that a step takes is not dropped. -/
@[simp] theorem dropped?_ofPhrase (phrase : Text) (category : Category) (text : Text) :
    (ofPhrase phrase category text).dropped? = none := by
  unfold ofPhrase
  split <;> rfl

/-- The finding for a phrase accounts for the phrase. -/
@[simp] theorem phrase_ofPhrase (phrase : Text) (category : Category) (text : Text) :
    (ofPhrase phrase category text).phrase = phrase := by
  unfold ofPhrase
  split <;> rfl

end Finding

theorem Context.afterAll_append (ctx : Context) (findings later : List Finding) :
    ctx.afterAll (findings ++ later) = (ctx.afterAll findings).afterAll later :=
  List.foldl_append

namespace Dialect

variable {d : Dialect} {window : Nat} {ctx : Context} {previous : Option Text} {words : List Text}

/-! ## §1 Claims -/

/-- The claim of a table: a phrase in the window that the table resolves and the gating admits. -/
structure IsTableClaim (d : Dialect) (window : Nat) (ctx : Context) (words : List Text)
    (claim : Claim) : Prop where
  resolved : d.resolve? claim.category (words.take claim.length) = some claim.text
  admitted : d.admits ctx claim.category claim.text = true
  positive : 1 ≤ claim.length
  inWindow : claim.length ≤ window
  inWords : claim.length ≤ words.length

/-- The claim of the numeric policy: a number right after an effect that takes one. -/
def IsNumberClaim (d : Dialect) (ctx : Context) (words : List Text) (claim : Claim) : Prop :=
  ∃ word later effect, words = word :: later ∧ ctx.effect = some effect ∧
    d.takesNumber effect = true ∧ d.numeric.accepts word = true ∧
    claim = ⟨d.numeric.categoryBefore later.head?, word, 1⟩

/-- A phrase is resolved as it stands, or with a singular form of its last word. -/
theorem resolve?_eq_some {category : Category} {phrase : List Text} {text : Text}
    (h : d.resolve? category phrase = some text) :
    d.vocabulary.lookup category (Text.unwords phrase) = some text ∨
      ∃ form ∈ Clause.singulars (phrase.getLast?.getD []),
        d.vocabulary.lookup category (Text.unwords (phrase.dropLast ++ [form])) = some text := by
  unfold resolve? at h
  split at h
  · next found => exact .inl (found.trans h)
  · exact .inr (List.exists_of_findSome?_eq_some h)

theorem resolve?_eq_none_iff {category : Category} {phrase : List Text} :
    d.resolve? category phrase = none ↔
      d.vocabulary.lookup category (Text.unwords phrase) = none ∧
        ∀ form ∈ Clause.singulars (phrase.getLast?.getD []),
          d.vocabulary.lookup category (Text.unwords (phrase.dropLast ++ [form])) = none := by
  unfold resolve?
  split
  · next found => simp [found]
  · next missing => rw [List.findSome?_eq_none_iff, and_iff_right missing]

/-- What a vocabulary that is built from calls makes of a phrase is in normal form. -/
theorem isNormal_of_resolve? {category : Category} {phrase : List Text} {text : Text}
    (built : d.vocabulary.Built) (h : d.resolve? category phrase = some text) :
    Text.IsNormal text := by
  rcases resolve?_eq_some h with found | ⟨form, -, found⟩
  · exact Vocabulary.isNormal_of_lookup built found
  · exact Vocabulary.isNormal_of_lookup built found

theorem longestPhrase?_eq_some {category : Category} {claim : Claim} :
    ∀ {longest : Nat}, d.longestPhrase? ctx category words longest = some claim →
      claim.category = category ∧ 1 ≤ claim.length ∧ claim.length ≤ longest ∧
        d.resolve? category (words.take claim.length) = some claim.text ∧
        d.admits ctx category claim.text = true
  | 0, h => by simp [longestPhrase?] at h
  | n + 1, h => by
    have shorter : d.longestPhrase? ctx category words n = some claim →
        claim.category = category ∧ 1 ≤ claim.length ∧ claim.length ≤ n + 1 ∧
          d.resolve? category (words.take claim.length) = some claim.text ∧
          d.admits ctx category claim.text = true := fun h => by
      obtain ⟨same, positive, bound, rest⟩ := longestPhrase?_eq_some h
      exact ⟨same, positive, by omega, rest⟩
    simp only [longestPhrase?] at h
    split at h
    · next text resolved =>
      split at h
      · next admitted =>
        obtain rfl := Option.some.inj h
        exact ⟨rfl, by simp, by simp, resolved, admitted⟩
      · exact shorter h
    · exact shorter h

theorem tableClaim?_eq_some {category : Category} {claim : Claim}
    (h : d.tableClaim? window ctx category words = some claim) :
    claim.category = category ∧ d.IsTableClaim window ctx words claim := by
  obtain ⟨rfl, positive, bound, resolved, admitted⟩ := longestPhrase?_eq_some h
  exact ⟨rfl, resolved, admitted, positive, by omega, by omega⟩

theorem numberClaim?_eq_some {claim : Claim} (h : d.numberClaim? ctx words = some claim) :
    d.IsNumberClaim ctx words claim := by
  unfold numberClaim? at h
  split at h
  · next word later effect known =>
    split at h
    · next taken =>
      rw [Bool.and_eq_true] at taken
      exact ⟨word, later, effect, rfl, known, taken.1, taken.2, (Option.some.inj h).symm⟩
    · simp at h
  · simp at h

/-- **Where the winning claim comes from.** -/
theorem bestClaim?_cases {claim : Claim}
    (h : d.bestClaim? window ctx previous words = some claim) :
    (d.IsTableClaim window ctx words claim ∧
      (claim.category = .type ∨ .table claim.category ∈ d.order)) ∨
    (d.IsNumberClaim ctx words claim ∧ .number ∈ d.order) := by
  simp only [bestClaim?] at h
  split at h
  · next first subject =>
    obtain rfl := Option.some.inj h
    split at subject
    · obtain ⟨type, isClaim⟩ := tableClaim?_eq_some subject
      exact .inl ⟨isClaim, .inl type⟩
    · simp at subject
  · obtain ⟨step, member, claimed⟩ := List.exists_of_findSome?_eq_some h
    cases step with
    | table category =>
      obtain ⟨rfl, isClaim⟩ := tableClaim?_eq_some claimed
      exact .inl ⟨isClaim, .inr member⟩
    | number => exact .inr ⟨numberClaim?_eq_some claimed, member⟩

/-- A claim takes at least one word, and no more than there are. -/
theorem length_of_bestClaim? {claim : Claim}
    (h : d.bestClaim? window ctx previous words = some claim) :
    1 ≤ claim.length ∧ claim.length ≤ words.length := by
  rcases bestClaim?_cases h with ⟨isClaim, -⟩ | ⟨⟨word, later, effect, rfl, -, -, -, rfl⟩, -⟩
  · exact ⟨isClaim.positive, isClaim.inWords⟩
  · simp

/-! ## §2 Words -/

/-- How the words of a clause are read. -/
inductive WordsRead (d : Dialect) (window : Nat) :
    Context → Option Text → List Text → List Finding → Prop
  | nil {ctx : Context} {previous : Option Text} : WordsRead d window ctx previous [] []
  /-- No step claims the first word. -/
  | dropped {ctx : Context} {previous : Option Text} {word : Text} {rest : List Text}
      {findings : List Finding} :
      d.bestClaim? window ctx previous (word :: rest) = none →
      WordsRead d window ctx (some word) rest findings →
      WordsRead d window ctx previous (word :: rest) (.dropped word :: findings)
  /-- A claim takes a phrase, and what it makes of the phrase is known to what follows. -/
  | claimed {ctx : Context} {previous : Option Text} {phrase rest : List Text} {claim : Claim}
      {finding : Finding} {findings : List Finding} :
      d.bestClaim? window ctx previous (phrase ++ rest) = some claim →
      claim.length = phrase.length →
      finding = .ofPhrase (Text.unwords phrase) claim.category claim.text →
      WordsRead d window (ctx.after finding) phrase.getLast? rest findings →
      WordsRead d window ctx previous (phrase ++ rest) (finding :: findings)

/-- Words that a phrase has taken already are passed over. -/
theorem readWords_taken (d : Dialect) (window : Nat) (ctx : Context) (word : Text)
    (taken rest : List Text) :
    d.readWords window ctx (some word) taken.length (taken ++ rest) =
      d.readWords window ctx (word :: taken).getLast? 0 rest := by
  induction taken generalizing word with
  | nil => rfl
  | cons next taken ih =>
    rw [List.length_cons, List.cons_append, readWords, ih, List.getLast?_cons_cons]

/-- Behind a claimed phrase reading goes on at the next word, with what the phrase was found to be.
-/
theorem readWords_of_claim {claim : Claim}
    (best : d.bestClaim? window ctx previous words = some claim) :
    let phrase := words.take claim.length
    let finding := Finding.ofPhrase (Text.unwords phrase) claim.category claim.text
    d.readWords window ctx previous 0 words =
      finding :: d.readWords window (ctx.after finding) phrase.getLast? 0
        (words.drop claim.length) := by
  obtain ⟨positive, bound⟩ := length_of_bestClaim? best
  cases words with
  | nil =>
    rw [List.length_nil] at bound
    omega
  | cons word rest =>
    -- The word is taken first, and then the rest of the phrase.
    obtain ⟨n, hn⟩ : ∃ n, claim.length = n + 1 := ⟨claim.length - 1, by omega⟩
    have short : n ≤ rest.length := by simpa [hn] using bound
    have phrase : (word :: rest).take (n + 1) = word :: rest.take n := List.take_succ_cons
    have skip := readWords_taken d window
      (ctx.after (.ofPhrase (Text.unwords (word :: rest.take n)) claim.category claim.text))
      word (rest.take n) (rest.drop n)
    rw [List.take_append_drop, List.length_take_of_le short] at skip
    rw [readWords, best]
    simp only [hn, Nat.add_sub_cancel, phrase, List.drop_succ_cons]
    rw [skip]

/-- **The findings of a list of words come about as `WordsRead` says.** -/
theorem wordsRead_readWords (ctx : Context) (previous : Option Text) (words : List Text) :
    WordsRead d window ctx previous words (d.readWords window ctx previous 0 words) := by
  match words with
  | [] => exact .nil
  | word :: rest =>
    cases best : d.bestClaim? window ctx previous (word :: rest) with
    | none =>
      rw [readWords, best]
      exact .dropped best (wordsRead_readWords ctx (some word) rest)
    | some claim =>
      obtain ⟨positive, bound⟩ := length_of_bestClaim? best
      have cut := List.take_append_drop claim.length (word :: rest)
      rw [readWords_of_claim best, ← cut]
      have later := wordsRead_readWords
        (ctx.after (.ofPhrase (Text.unwords ((word :: rest).take claim.length)) claim.category
          claim.text))
        ((word :: rest).take claim.length).getLast? ((word :: rest).drop claim.length)
      rw [← cut] at best
      refine .claimed best (List.length_take_of_le bound).symm ?_ ?_
      · rw [cut]
      · rw [cut]
        exact later
termination_by words.length
decreasing_by
  · simp
  · simp only [List.length_drop, List.length_cons]
    omega

/-! ## §3 Clauses -/

/-- A capture is declared, and its words open the clause. -/
theorem capture?_eq_some {category : Category} (h : d.capture? words = some category) :
    ∃ capture ∈ d.captures, capture.2 = category ∧ Text.words capture.1 <+: words := by
  obtain ⟨capture, found, rfl⟩ := Option.map_eq_some_iff.1 h
  have opens : (Text.words capture.1).isPrefixOf words = true := by
    simpa using List.find?_some found
  exact ⟨capture, List.mem_of_find?_eq_some found, rfl, List.isPrefixOf_iff_prefix.1 opens⟩

/-- How a clause is read. -/
inductive ClauseRead (d : Dialect) (window : Nat) (ctx : Context) :
    List Text → List Finding → Prop
  | empty : ClauseRead d window ctx [] []
  /-- A capture takes the whole clause. -/
  | captured {words : List Text} {category : Category} {finding : Finding} :
      words ≠ [] → d.capture? words = some category →
      finding = .ofPhrase (Text.unwords words) category (Text.unwords words) →
      ClauseRead d window ctx words [finding]
  | byWords {words : List Text} {findings : List Finding} :
      WordsRead d window ctx none words findings → ClauseRead d window ctx words findings

theorem clauseRead_readClause (ctx : Context) (words : List Text) :
    ClauseRead d window ctx words (d.readClause window ctx words) := by
  cases words with
  | nil => exact .empty
  | cons word rest =>
    simp only [readClause, List.isEmpty_cons, Bool.false_eq_true, if_false]
    split
    · next category captured => exact .captured (by simp) captured rfl
    · exact .byWords (wordsRead_readWords ctx none (word :: rest))

/-- **Every clause is read from its own words**, in the context that the clauses before it leave. -/
theorem clauseRead_of_readClauses_eq {reading : ClauseReading} :
    ∀ {ctx : Context} {clauses : List Text} {before behind : List ClauseReading},
      d.readClauses window ctx clauses = before ++ reading :: behind →
        reading.words = Clause.words reading.clause ∧
          ClauseRead d window (ctx.afterAll (before.flatMap ClauseReading.findings))
            reading.words reading.findings
  | _, [], before, behind, h => by simp [readClauses] at h
  | ctx, clause :: rest, [], behind, h => by
    rw [readClauses] at h
    obtain ⟨rfl, -⟩ := List.cons.inj h
    exact ⟨rfl, clauseRead_readClause ctx (Clause.words clause)⟩
  | ctx, clause :: rest, first :: before, behind, h => by
    rw [readClauses] at h
    obtain ⟨rfl, later⟩ := List.cons.inj h
    obtain ⟨own, read⟩ := clauseRead_of_readClauses_eq later
    refine ⟨own, ?_⟩
    rwa [List.flatMap_cons, Context.afterAll_append]

theorem clauseRead_of_mem_readClauses {reading : ClauseReading} {clauses : List Text}
    (h : reading ∈ d.readClauses window ctx clauses) :
    reading.words = Clause.words reading.clause ∧
      ∃ before, ClauseRead d window before reading.words reading.findings := by
  obtain ⟨before, behind, split⟩ := List.append_of_mem h
  obtain ⟨own, read⟩ := clauseRead_of_readClauses_eq split
  exact ⟨own, _, read⟩

/-- Further clauses are read in the context that the first ones leave. -/
theorem readClauses_append (ctx : Context) (clauses further : List Text) :
    d.readClauses window ctx (clauses ++ further) =
      d.readClauses window ctx clauses ++
        d.readClauses window (ctx.afterAll
          ((d.readClauses window ctx clauses).flatMap ClauseReading.findings)) further := by
  induction clauses generalizing ctx with
  | nil => rfl
  | cons clause rest ih =>
    simp only [List.cons_append, readClauses, List.flatMap_cons, ih, Context.afterAll_append]

@[simp] theorem map_clause_readClauses (ctx : Context) (clauses : List Text) :
    (d.readClauses window ctx clauses).map ClauseReading.clause = clauses := by
  induction clauses generalizing ctx with
  | nil => rfl
  | cons clause rest ih => rw [readClauses, List.map_cons, ih]

/-! ## §4 Keywords before a colon -/

/-- A keyword that opens a text is declared, a colon follows it behind white space, and what stands
behind the colon is the body. -/
theorem opening?_inv {t keyword body : Text} {category : Category}
    (h : d.opening? t = some (keyword, category, body)) : (keyword, category) ∈ d.openings ∧
      ∃ rest after, t = keyword ++ rest ∧ Text.trimStart rest = ':' :: after ∧
        body = Text.trim after := by
  obtain ⟨opening, member, opens⟩ := List.exists_of_findSome?_eq_some h
  obtain ⟨after, colon, same⟩ := Option.map_eq_some_iff.1 opens
  obtain ⟨rest, keyed, colon⟩ := Option.bind_eq_some_iff.1 colon
  obtain ⟨rfl, rfl, rfl⟩ := same
  exact ⟨member, rest, after, Text.after?_eq_some keyed, Text.after?_eq_some colon, rfl⟩

/-- The colon of a keyword does not come back in what follows. -/
theorem count_colon_of_opening? {t keyword body : Text} {category : Category}
    (h : d.opening? t = some (keyword, category, body)) :
    body.count ':' + 1 ≤ t.count ':' := by
  obtain ⟨-, rest, after, rfl, colon, rfl⟩ := opening?_inv h
  have trimmed : (Text.trim after).count ':' ≤ after.count ':' :=
    (Text.trimOf_sublist Text.isSpace after).count_le ':'
  have started : (Text.trimStart rest).count ':' ≤ rest.count ':' :=
    (List.dropWhile_sublist Text.isSpace).count_le ':'
  rw [colon, List.count_cons_self] at started
  rw [List.count_append]
  omega

theorem mem_openings_of_openingsWithin {opening : Text × Category} :
    ∀ {bound : Nat} {t : Text}, opening ∈ (d.openingsWithin bound t).1 → opening ∈ d.openings
  | 0, t, h => by simp [openingsWithin] at h
  | bound + 1, t, h => by
    rw [openingsWithin] at h
    split at h
    · simp at h
    · next keyword category body opens =>
      rcases List.mem_cons.1 h with rfl | h
      · exact (opening?_inv opens).1
      · exact mem_openings_of_openingsWithin h

theorem openingsWithin_of_none {t : Text} (h : d.opening? t = none) (bound : Nat) :
    d.openingsWithin bound t = ([], t) := by
  cases bound with
  | zero => rfl
  | succ bound => rw [openingsWithin, h]

/-- **Each keyword takes a colon.** -/
theorem length_openingsWithin_add_count (bound : Nat) (t : Text) :
    (d.openingsWithin bound t).1.length + (d.openingsWithin bound t).2.count ':' ≤
      t.count ':' := by
  induction bound generalizing t with
  | zero => simp [openingsWithin]
  | succ bound ih =>
    rw [openingsWithin]
    split
    · simp
    · next keyword category body opens =>
      have fewer := count_colon_of_opening? opens
      have later := ih body
      simp only [List.length_cons]
      omega

/-- The bound on the number of keywords is never reached. -/
theorem openingsWithin_eq_of_count_le {bound larger : Nat} {t : Text}
    (few : t.count ':' ≤ bound) (fewer : t.count ':' ≤ larger) :
    d.openingsWithin bound t = d.openingsWithin larger t := by
  induction bound generalizing larger t with
  | zero =>
    cases opens : d.opening? t with
    | none => rw [openingsWithin_of_none opens, openingsWithin_of_none opens]
    | some found =>
      have := count_colon_of_opening? opens
      omega
  | succ bound ih =>
    cases opens : d.opening? t with
    | none => rw [openingsWithin_of_none opens, openingsWithin_of_none opens]
    | some found =>
      obtain ⟨keyword, category, body⟩ := found
      have colons : body.count ':' < t.count ':' := count_colon_of_opening? opens
      obtain ⟨larger, rfl⟩ : ∃ n, larger = n + 1 := ⟨larger - 1, by omega⟩
      have later : d.openingsWithin bound body = d.openingsWithin larger body :=
        ih (by omega) (by omega)
      simp only [openingsWithin, opens, later]

/-- The bound does not cut the keywords off: no keyword opens the body of a text. -/
theorem opening?_body (t : Text) : d.opening? (d.openingsOf t).2 = none := by
  suffices h : ∀ (bound : Nat) (t : Text), t.count ':' ≤ bound →
      d.opening? (d.openingsWithin bound t).2 = none from h t.length t List.count_le_length
  intro bound
  induction bound with
  | zero =>
    intro t few
    cases opens : d.opening? t with
    | none => exact opens
    | some opening =>
      have := count_colon_of_opening? opens
      omega
  | succ bound ih =>
    intro t few
    rw [openingsWithin]
    split
    · next opens => exact opens
    · next keyword category body opens =>
      have := count_colon_of_opening? opens
      exact ih body (by omega)

/-- A text opens with no more keywords than it has colons. -/
theorem length_openingsOf_le (text : Text) :
    (d.openingsOf (Text.lower (Text.trim text))).1.length ≤ text.count ':' := by
  have bound := length_openingsWithin_add_count (d := d) (Text.lower (Text.trim text)).length
    (Text.lower (Text.trim text))
  have trimmed : (Text.trim text).count ':' ≤ text.count ':' :=
    (Text.trimOf_sublist Text.isSpace text).count_le ':'
  rw [Text.count_colon_lower] at bound
  unfold openingsOf
  omega

/-! ## §5 Runs -/

/-- The reading that a run comes from. -/
def readingOf (d : Dialect) (options : ParseOptions) (text : Text) : Reading :=
  d.read (d.windowFor options) (Text.lower (Text.trim text))

/-- The findings of the keywords that open a text. -/
def openingFindings (d : Dialect) (text : Text) : List Finding :=
  (d.openingsOf (Text.lower (Text.trim text))).1.map fun opening =>
    .ofPhrase opening.1 opening.2 opening.1

variable (options : ParseOptions) (text : Text)

theorem keywords_readingOf :
    (d.readingOf options text).keywords.map Prod.snd = d.openingFindings text := by
  simp [readingOf, read, openingFindings, Function.comp_def]

/-- The clauses are read in the context that the keywords leave. -/
theorem clauses_readingOf : (d.readingOf options text).clauses =
    d.readClauses (d.windowFor options) (Context.afterAll {} (d.openingFindings text))
      (Clause.ofText (d.openingsOf (Text.lower (Text.trim text))).2) := by
  rw [← keywords_readingOf options]
  rfl

/-- A run keeps the record of its reading, but for the mark of a discarded chain. -/
theorem unmarked_classify :
    (d.classify options text).trace.unmarked = (d.readingOf options text).trace := by
  unfold classify readingOf
  generalize d.read (d.windowFor options) (Text.lower (Text.trim text)) = reading
  dsimp only
  split <;> rfl

@[simp] theorem clauses_classify : (d.classify options text).trace.clauses =
    (d.readingOf options text).clauses.map ClauseReading.clause := by
  rw [← Trace.clauses_unmarked, unmarked_classify, Reading.trace]

/-- The clauses of a run are those of the body of the text. -/
theorem clauses_eq_ofText : (d.classify options text).trace.clauses =
    Clause.ofText (d.openingsOf (Text.lower (Text.trim text))).2 := by
  rw [clauses_classify, clauses_readingOf, map_clause_readClauses]

@[simp] theorem tokens_classify : (d.classify options text).trace.tokens =
    ((d.readingOf options text).clauses.flatMap ClauseReading.words).length := by
  rw [← Trace.tokens_unmarked, unmarked_classify, Reading.trace]

/-- The matches of a run are those of its reading. -/
theorem found_eq_found_readingOf :
    (d.classify options text).trace.found = (d.readingOf options text).found := by
  rw [← Trace.found_unmarked, unmarked_classify, Reading.trace]

/-- The matches of a run are those of the keywords, then those of the clauses in order. -/
@[simp] theorem found_classify : (d.classify options text).trace.found =
    (d.openingFindings text).filterMap Finding.match? ++
      (d.readingOf options text).clauses.flatMap fun reading =>
        reading.findings.filterMap Finding.match? := by
  rw [found_eq_found_readingOf, Reading.found, Reading.findings, keywords_readingOf,
      List.filterMap_append, List.filterMap_flatMap]

/-- The shortcut of a run is its first keyword. -/
theorem shortcut_classify : (d.classify options text).trace.shortcut =
    (d.readingOf options text).keywords.head?.map Prod.fst := by
  rw [← Trace.shortcut_unmarked, unmarked_classify, Reading.trace]

theorem dropped_eq_dropped_readingOf : (d.classify options text).trace.dropped =
    (d.readingOf options text).findings.filterMap Finding.dropped? := by
  rw [← Trace.dropped_unmarked, unmarked_classify, Reading.trace]

/-- Only words of clauses are dropped. -/
@[simp] theorem dropped_classify : (d.classify options text).trace.dropped =
    (d.readingOf options text).clauses.flatMap fun reading =>
      reading.findings.filterMap Finding.dropped? := by
  have keywords : (d.openingFindings text).filterMap Finding.dropped? = [] := by
    rw [List.filterMap_eq_nil_iff]
    intro finding member
    obtain ⟨opening, -, rfl⟩ := List.mem_map.1 member
    exact Finding.dropped?_ofPhrase opening.1 opening.2 opening.1
  rw [dropped_eq_dropped_readingOf, Reading.findings, keywords_readingOf, List.filterMap_append,
      keywords, List.nil_append, List.filterMap_flatMap]

theorem clauseRead_of_mem_readingOf {reading : ClauseReading}
    (h : reading ∈ (d.readingOf options text).clauses) :
    reading.words = Clause.words reading.clause ∧
      ∃ before, ClauseRead d (d.windowFor options) before reading.words reading.findings :=
  clauseRead_of_mem_readClauses h

end Dialect

end AbilityText

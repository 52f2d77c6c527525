/-
AbilityText.Proofs.Classification.Soundness — why a match is on record.

A match comes from a keyword before a colon, from a capture, from a number, or from a phrase table
(`justified_of_mem_found`). The first and the last two show what the dialect lists: the categories
and the texts of all matches are among those it lists for itself (`has_categories_of_justified`,
`mem_components_of_fromOpening`, `mem_components_of_fromTable`).

The text of a component is the normal form of a canonical text. It is the canonical text itself
because a vocabulary that is built from calls holds normal forms only.
-/
import AbilityText.Proofs.Classification.Agreement
import AbilityText.Proofs.Games
import AbilityText.Proofs.NumberPolicy

namespace AbilityText

open Clause (IsClauseWord)
open Text (IsNormal)

namespace Dialect

variable {d : Dialect} {window : Nat}

/-! ## §1 Four reasons -/

/-- The phrase is a declared keyword, and the text its normal form. -/
def FromOpening (d : Dialect) (m : Match) : Prop :=
  (m.phrase, m.category) ∈ d.openings ∧ m.text = Text.normalize m.phrase

/-- The phrase is all the words of a clause that opens with a declared capture. -/
def FromCapture (d : Dialect) (clauses : List Text) (m : Match) : Prop :=
  m.text = m.phrase ∧
    ∃ clause ∈ clauses, m.phrase = Text.unwords (Clause.words clause) ∧
      ∃ capture ∈ d.captures, capture.2 = m.category ∧
        Text.words capture.1 <+: Clause.words clause

/-- The phrase is "x" or a number that the policy takes. -/
def FromNumber (d : Dialect) (m : Match) : Prop :=
  .number ∈ d.order ∧ m.category ∈ d.numberCategories ∧ m.text = m.phrase ∧
    (m.phrase = ("x" : Text) ∧ d.numeric.allowX = true ∨
      ∃ n, Text.natural? m.phrase = some n ∧ d.numeric.min ≤ n ∧ n ≤ d.numeric.max)

/-- The table of the category has the text for the phrase, or for the phrase with a singular form
of its last word. -/
def FromTable (d : Dialect) (m : Match) : Prop :=
  (m.category = .type ∨ .table m.category ∈ d.order) ∧
    (d.vocabulary.lookup m.category m.phrase = some m.text ∨
      ∃ lead last form, Text.words m.phrase = lead ++ [last] ∧ form ∈ Clause.singulars last ∧
        d.vocabulary.lookup m.category (Text.unwords (lead ++ [form])) = some m.text)

/-- The reasons for which a match is on record, in a run over these clauses. -/
def Justified (d : Dialect) (clauses : List Text) (m : Match) : Prop :=
  d.FromOpening m ∨ d.FromCapture clauses m ∨ d.FromNumber m ∨ d.FromTable m

/-! ## §2 Claims on words -/

theorem categoryBefore_mem_numberCategories (next : Option Text) :
    d.numeric.categoryBefore next ∈ d.numberCategories := by
  unfold NumberPolicy.categoryBefore numberCategories
  split
  · exact List.mem_cons_self
  · next word =>
    cases found : d.numeric.units.find? fun unit =>
        unit.1 == word || (Clause.singulars word).contains unit.1 with
    | none => exact List.mem_cons_self
    | some unit =>
      exact List.mem_cons_of_mem _ (List.mem_map_of_mem (List.mem_of_find?_eq_some found))

/-- The match of a phrase that a table resolves. -/
theorem fromTable_of_resolve? {m : Match} {phrase : List Text} {text : Text}
    (built : d.vocabulary.Built) (proper : ∀ w ∈ phrase, IsClauseWord w) (nonempty : phrase ≠ [])
    (step : m.category = .type ∨ .table m.category ∈ d.order)
    (resolved : d.resolve? m.category phrase = some text)
    (same : m.phrase = Text.unwords phrase) (normal : m.text = Text.normalize text) :
    d.FromTable m := by
  refine ⟨step, ?_⟩
  have own : Text.normalize text = text := isNormal_of_resolve? built resolved
  rcases resolve?_eq_some resolved with found | ⟨form, singular, found⟩
  · left
    rw [normal, same, found, own]
  · right
    have cut := List.dropLast_concat_getLast nonempty
    refine ⟨phrase.dropLast, phrase.getLast nonempty, form, ?_, ?_, ?_⟩
    · rw [same, cut, Text.words_unwords fun w hw => (proper w hw).lower.1]
    · rwa [List.getLast?_eq_some_getLast nonempty, Option.getD_some] at singular
    · rw [normal, found, own]

/-- **The match of a claim comes from a table or from a number.** -/
theorem justified_of_bestClaim? {ctx : Context} {previous : Option Text}
    {phrase rest : List Text} {claim : Claim} {m : Match} (built : d.vocabulary.Built)
    (proper : ∀ w ∈ phrase, IsClauseWord w)
    (best : d.bestClaim? window ctx previous (phrase ++ rest) = some claim)
    (length : claim.length = phrase.length) (same : m.phrase = Text.unwords phrase)
    (category : m.category = claim.category) (normal : m.text = Text.normalize claim.text) :
    d.FromNumber m ∨ d.FromTable m := by
  rcases bestClaim?_cases best with
    ⟨isClaim, step⟩ | ⟨⟨word, later, effect, cut, -, -, accepted, rfl⟩, step⟩
  · have positive := isClaim.positive
    have nonempty : phrase ≠ [] := by
      rintro rfl
      simp only [List.length_nil] at length
      omega
    have resolved := isClaim.resolved
    rw [length, List.take_left, ← category] at resolved
    exact .inr (fromTable_of_resolve? built proper nonempty (category ▸ step) resolved same normal)
  · -- The phrase is the number alone, a word in lower case and so its own normal form.
    obtain ⟨w, rfl⟩ := List.length_eq_one_iff.1 length.symm
    obtain ⟨rfl, rfl⟩ := List.cons.inj cut
    rw [Text.unwords_singleton] at same
    have own : IsNormal (Text.unwords [w]) :=
      Text.isNormal_unwords fun w hw => (proper w hw).lower
    rw [Text.unwords_singleton] at own
    refine .inl ⟨step, category ▸ categoryBefore_mem_numberCategories _, ?_, ?_⟩
    · rw [normal, same]
      exact own
    · rw [same]
      refine (NumberPolicy.spells_of_accepts (proper w (by simp)) accepted).imp_right ?_
      rintro ⟨n, spells, bounds⟩
      exact ⟨n, Text.natural?_of_spells spells, bounds⟩

/-! ## §3 Readings -/

theorem justified_of_wordsRead {ctx : Context} {previous : Option Text} {words : List Text}
    {findings : List Finding} {m : Match} (built : d.vocabulary.Built)
    (proper : ∀ w ∈ words, IsClauseWord w) (h : WordsRead d window ctx previous words findings)
    (member : m ∈ findings.filterMap Finding.match?) : d.FromNumber m ∨ d.FromTable m := by
  induction h with
  | nil => simp at member
  | @dropped ctx previous word rest findings _ _ ih =>
    rw [List.filterMap_cons_none rfl] at member
    exact ih (fun w hw => proper w (List.mem_cons_of_mem word hw)) member
  | @claimed ctx previous phrase rest claim finding findings best length made _ ih =>
    obtain ⟨found, inFindings, isMatch⟩ := List.mem_filterMap.1 member
    rcases List.mem_cons.1 inFindings with rfl | later
    · rw [made] at isMatch
      obtain ⟨same, category, normal⟩ := Finding.match?_ofPhrase isMatch
      exact justified_of_bestClaim? built (fun w hw => proper w (List.mem_append_left rest hw))
        best length same category normal
    · exact ih (fun w hw => proper w (List.mem_append_right phrase hw))
        (List.mem_filterMap.2 ⟨found, later, isMatch⟩)

theorem justified_of_clauseRead {ctx : Context} {clause : Text} {clauses : List Text}
    {findings : List Finding} {m : Match} (built : d.vocabulary.Built)
    (inClauses : clause ∈ clauses) (h : ClauseRead d window ctx (Clause.words clause) findings)
    (member : m ∈ findings.filterMap Finding.match?) : d.Justified clauses m := by
  have proper : ∀ w ∈ Clause.words clause, IsClauseWord w :=
    fun _ => Clause.isClauseWord_of_mem_words
  generalize whole : Clause.words clause = words at h proper
  cases h with
  | empty => simp at member
  | @captured _ category _ nonempty captured made =>
    rw [List.mem_filterMap] at member
    obtain ⟨found, inFindings, isMatch⟩ := member
    rw [List.mem_singleton.1 inFindings, made] at isMatch
    obtain ⟨same, rfl, normal⟩ := Finding.match?_ofPhrase isMatch
    obtain ⟨capture, declared, tagged, opens⟩ := capture?_eq_some captured
    refine .inr (.inl ⟨?_, clause, inClauses, ?_, capture, declared, tagged, ?_⟩)
    · rw [normal, same]
      exact Text.isNormal_unwords fun w hw => (proper w hw).lower
    · rw [whole, same]
    · rwa [whole]
  | byWords read => exact .inr (.inr (justified_of_wordsRead built proper read member))

variable (options : ParseOptions) (text : Text)

theorem fromOpening_of_mem_openingFindings {m : Match}
    (member : m ∈ (d.openingFindings text).filterMap Finding.match?) : d.FromOpening m := by
  obtain ⟨finding, inFindings, isMatch⟩ := List.mem_filterMap.1 member
  obtain ⟨opening, opens, rfl⟩ := List.mem_map.1 inFindings
  obtain ⟨same, category, normal⟩ := Finding.match?_ofPhrase isMatch
  refine ⟨?_, by rw [normal, same]⟩
  rw [same, category]
  exact mem_openings_of_openingsWithin opens

/-- **Every match on record has one of the four reasons.** -/
theorem justified_of_mem_found {m : Match} (built : d.vocabulary.Built)
    (member : m ∈ (d.classify options text).trace.found) :
    d.Justified (d.classify options text).trace.clauses m := by
  rw [found_classify] at member
  rcases List.mem_append.1 member with member | member
  · exact .inl (fromOpening_of_mem_openingFindings text member)
  · obtain ⟨reading, inClauses, member⟩ := List.mem_flatMap.1 member
    obtain ⟨own, ctx, read⟩ := clauseRead_of_mem_readingOf options text inClauses
    rw [own] at read
    refine justified_of_clauseRead built ?_ read member
    rw [clauses_classify]
    exact List.mem_map_of_mem inClauses

/-! ## §4 What the dialect lists -/

theorem has_categories_of_justified {clauses : List Text} {m : Match}
    (h : d.Justified clauses m) : d.categories.has m.category = true := by
  simp only [categories, CategorySet.has_union, Bool.or_eq_true, CategorySet.has_ofList_iff,
    List.contains_iff_mem]
  rcases h with ⟨declared, -⟩ | ⟨-, -, -, -, capture, declared, tagged, -⟩ |
    ⟨step, number, -⟩ | ⟨-, found⟩
  · exact .inl (.inr (List.mem_map.2 ⟨_, declared, rfl⟩))
  · exact .inr (List.mem_map.2 ⟨capture, declared, tagged⟩)
  · rw [if_pos step, CategorySet.has_ofList_iff]
    exact .inl (.inl (.inr number))
  · refine .inl (.inl (.inl ?_))
    rcases found with found | ⟨_, _, _, -, -, found⟩
    · exact Vocabulary.has_categories_of_lookup found
    · exact Vocabulary.has_categories_of_lookup found

theorem mem_components {category : Category} {t : Text} :
    t ∈ d.components category ↔
      t ∈ d.vocabulary.values category ∨ (t, category) ∈ d.openings := by
  have fold : d.components category =
      ((d.openings.filter fun entry => decide (entry.2 = category)).map Prod.fst).foldl keepFirst
        (d.vocabulary.values category) := rfl
  rw [fold, mem_foldl_keepFirst]
  simp [and_comm]

theorem mem_components_of_fromOpening {m : Match}
    (normal : ∀ opening ∈ d.openings, IsNormal opening.1) (h : d.FromOpening m) :
    m.text ∈ d.components m.category := by
  obtain ⟨declared, same⟩ := h
  rw [mem_components, same, normal _ declared]
  exact .inr declared

theorem mem_components_of_fromTable {m : Match} (h : d.FromTable m) :
    m.text ∈ d.components m.category := by
  rw [mem_components]
  rcases h.2 with found | ⟨_, _, _, -, -, found⟩
  · exact .inl (Vocabulary.mem_values_of_lookup found)
  · exact .inl (Vocabulary.mem_values_of_lookup found)

/-- The categories of a chain are listed. -/
theorem includes_categories_classify (built : d.vocabulary.Built) :
    d.categories.includes (d.classify options text).chain.categories = true := by
  rw [CategorySet.includes_iff]
  intro category has
  rw [Chain.categories, (built_chain_classify d options text).consistent.has_present,
      List.contains_iff_mem] at has
  obtain ⟨c, inChain, rfl⟩ := List.mem_map.1 has
  obtain ⟨m, found, rfl⟩ := exists_match_of_mem_chain d options text inChain
  exact has_categories_of_justified (justified_of_mem_found options text built found)

/-- **Soundness of classification.** Every match on record comes from a keyword, a capture, a number
or a table; the categories of the chain are among those that the dialect lists; and when the
declared keywords are in normal form, so are the texts of the matches from keywords and tables. -/
theorem classify_sound (d : Dialect) (built : d.vocabulary.Built) (options : ParseOptions)
    (text : Text) :
    let run := d.classify options text
    (∀ m ∈ run.trace.found, d.FromOpening m ∨ d.FromCapture run.trace.clauses m ∨
      d.FromNumber m ∨ d.FromTable m) ∧
    d.categories.includes run.chain.categories = true ∧
    ((∀ opening ∈ d.openings, IsNormal opening.1) →
      ∀ m ∈ run.trace.found, d.FromOpening m ∨ d.FromTable m →
        m.text ∈ d.components m.category) := by
  refine ⟨fun m member => justified_of_mem_found options text built member,
    includes_categories_classify options text built, fun normal m _ reason => ?_⟩
  rcases reason with opening | table
  · exact mem_components_of_fromOpening normal opening
  · exact mem_components_of_fromTable table

/-- A keyword and an effect, both with their reasons, in a game whose keywords are normal. -/
theorem classify_sound_battlecry :
    let dialect := Games.Hearthstone.dialect
    let run := dialect.classify {} "Battlecry: Draw"
    dialect.vocabulary.Built ∧ (∀ opening ∈ dialect.openings, IsNormal opening.1) ∧
      run.trace.found.map Match.phrase = (["battlecry", "draw"] : List Text) ∧
      (∀ m ∈ run.trace.found, dialect.Justified run.trace.clauses m) ∧
      dialect.categories.includes run.chain.categories = true ∧
      (∀ m ∈ run.trace.found, dialect.FromOpening m ∨ dialect.FromTable m →
        m.text ∈ dialect.components m.category) := by
  have built : Games.Hearthstone.dialect.vocabulary.Built := Games.Hearthstone.built
  have normal : ∀ opening ∈ Games.Hearthstone.dialect.openings, IsNormal opening.1 := by
    unfold IsNormal
    decide +kernel
  obtain ⟨reasons, categories, listed⟩ :=
    classify_sound Games.Hearthstone.dialect built {} "Battlecry: Draw"
  exact ⟨built, normal, by decide +kernel, reasons, categories, listed normal⟩

end Dialect

end AbilityText

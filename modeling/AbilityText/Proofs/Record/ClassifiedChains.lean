/-
AbilityText.Proofs.Record.ClassifiedChains — what is read back of the chain of a classified text.

A comma ends a clause, so no text of a classified chain holds one, captured clauses included; and a
bar stands in such a text only where the classified text has a bar (`bar_of_mem_found`). No text is
made of bars only, since each word of a clause has a letter or a number in it
(`exists_solid_of_mem_found`). So what is written of the chain of a built-in game is never
malformed, and it is read back as the chain itself, but for the bars in its texts
(`decodeChain_classify`).
-/
import AbilityText.Proofs.Classification.Soundness
import AbilityText.Proofs.Clause.Characters
import AbilityText.Proofs.Record.DecodedChains

namespace AbilityText

/-! ## §1 Written texts -/

namespace ChainField

/-- No separator in the text. -/
def isPlainText (t : Text) : Bool := t.all fun x => !isSeparator x

theorem isPlainText_iff {t : Text} :
    isPlainText t = true ↔ ∀ x ∈ t, isSeparator x = false := by
  simp [isPlainText]

/-- The text with spaces for bars, and single spaces. -/
def withoutBars (t : Text) : Text := Text.collapse (t.map fun c => if c = '|' then ' ' else c)

/-- Where there is no comma, the bars are the separators. -/
theorem withoutSeparators_eq_withoutBars {t : Text} (h : ',' ∉ t) :
    withoutSeparators t = withoutBars t := by
  have same : t.map (fun c => if isSeparator c then ' ' else c) =
      t.map (fun c => if c = '|' then ' ' else c) := by
    refine List.map_congr_left fun c member => ?_
    have other : c ≠ ',' := fun comma => h (comma ▸ member)
    simp [isSeparator, other]
  rw [withoutSeparators, same, withoutBars]

/-- A normal form without its separators is a normal form. -/
theorem isNormal_withoutSeparators {t : Text} (h : Text.IsNormal t) :
    Text.IsNormal (withoutSeparators t) := by
  refine Text.isNormal_unwords fun w listed => ⟨Text.isWord_of_mem_words listed, ?_⟩
  refine Text.lower_of_settled fun c member => ?_
  obtain ⟨x, inText, rfl⟩ := List.mem_map.1 (Text.mem_of_mem_words listed member)
  split
  · exact Text.settled_of_isSpace Text.isSpace_space
  · exact Text.settled_of_isNormal h x inText

theorem withoutSeparators_ne_nil {t : Text} {c : Char} (member : c ∈ t)
    (solid : Text.isSpace c = false) (plain : isSeparator c = false) :
    withoutSeparators t ≠ [] := by
  intro nothing
  have noWords := (Text.unwords_eq_nil_iff fun _ => Text.isWord_of_mem_words).1 nothing
  have blank := Text.words_eq_nil_iff.1 noWords
  have space := List.all_eq_true.1 blank c (List.mem_map.2 ⟨c, member, by simp [plain]⟩)
  rw [solid] at space
  exact Bool.noConfusion space

/-- What is read back of a component is the component without separators in its text. -/
theorem of_reread_eq_ok {c d : Component} (h : reread c = .ok d) :
    d.category = c.category ∧ d.text = withoutSeparators c.text := by
  unfold reread at h
  split at h
  · simp at h
  · next made =>
    obtain rfl := Except.ok.inj h
    obtain ⟨category, text⟩ := Component.new_eq_ok made
    exact ⟨category, text.trans (isNormal_withoutSeparators c.isNormal_text)⟩

/-- **A chain without commas in its texts is read back with its components in order, without the
bars in their texts**, if none of the texts is made of separators and white space only. -/
theorem decodeChain_encodeChain_of_not_mem_comma {chain : Chain}
    (noComma : ∀ c ∈ chain.components, ',' ∉ c.text)
    (filled : ∀ c ∈ chain.components, withoutSeparators c.text ≠ []) :
    ∃ kept, List.Forall₂ (fun c d => d.category = c.category ∧ d.text = withoutBars c.text)
        chain.components kept ∧
      decodeChain (encodeChain chain) = .ok (Chain.ofList kept) := by
  obtain ⟨kept, reads, -⟩ := foldlM_add_eq filled
  refine ⟨kept, ?_, by rw [decodeChain_encodeChain, reads]; rfl⟩
  have pairs := (List.forall₂_and_left _ _).2 ⟨noComma, forall₂_of_mapM_eq_ok reads⟩
  refine pairs.imp fun c d pair => ?_
  obtain ⟨noComma, read⟩ := pair
  obtain ⟨category, text⟩ := of_reread_eq_ok read
  exact ⟨category, text.trans (withoutSeparators_eq_withoutBars noComma)⟩

end ChainField

namespace Dialect

open ChainField (isSeparator isSeparator_iff notLowerForm_of_isSeparator isPlainText
  isPlainText_iff)

variable {d : Dialect}

/-! ## §2 Where the characters of a clause come from -/

theorem sublist_of_opening? {t keyword body : Text} {category : Category}
    (opens : d.opening? t = some (keyword, category, body)) : List.Sublist body t := by
  obtain ⟨-, rest, after, rfl, colon, rfl⟩ := opening?_inv opens
  have behindColon : List.Sublist after (Text.trimStart rest) :=
    colon ▸ List.sublist_cons_self ':' after
  calc List.Sublist (Text.trim after) after := Text.trimOf_sublist _ after
    List.Sublist _ (Text.trimStart rest) := behindColon
    List.Sublist _ rest := List.dropWhile_sublist _
    List.Sublist _ (keyword ++ rest) := List.sublist_append_right keyword rest

/-- The body of a text is a part of the text. -/
theorem sublist_body (bound : Nat) (t : Text) : List.Sublist (d.openingsWithin bound t).2 t := by
  induction bound generalizing t with
  | zero => exact List.Sublist.refl t
  | succ bound ih =>
    rw [openingsWithin]
    split
    · exact List.Sublist.refl t
    · next keyword category body opens => exact (ih body).trans (sublist_of_opening? opens)

variable (options : ParseOptions) (text : Text)

/-- A word of a clause is not made of separators. -/
theorem exists_plain_of_mem_words {clause w : Text} (h : w ∈ Clause.words clause) :
    ∃ x ∈ w, isSeparator x = false := by
  obtain ⟨a, x, letter, first, form⟩ := Clause.exists_alphanumeric_of_mem_words h
  refine ⟨x, List.mem_of_head? first, Bool.eq_false_iff.2 fun separator => ?_⟩
  rcases form with form | rfl
  · obtain ⟨range, listed, low, high⟩ := notLowerForm_of_isSeparator separator
    obtain rfl : x = a := Text.eq_of_mem_lowerChar form range listed low high
    rcases isSeparator_iff.1 separator with rfl | rfl
    · exact absurd letter (by decide +kernel)
    · exact absurd letter (by decide +kernel)
  · exact absurd separator (by decide)

/-- A separator in a clause is a bar of the text. -/
theorem bar_of_mem_clause {clause : Text} {x : Char}
    (listed : clause ∈ (d.classify options text).trace.clauses) (member : x ∈ clause)
    (separator : isSeparator x = true) : x = '|' ∧ '|' ∈ text := by
  rw [clauses_eq_ofText] at listed
  obtain ⟨inBody, goesOn⟩ := Clause.of_mem_ofText listed member
  have inLower := (sublist_body _ _).subset inBody
  obtain ⟨range, inRanges, low, high⟩ := notLowerForm_of_isSeparator separator
  have inTrimmed := Text.mem_of_mem_lower inLower range inRanges low high
  have inText := (Text.trimOf_sublist _ text).subset inTrimmed
  rcases isSeparator_iff.1 separator with rfl | rfl
  · exact absurd goesOn (by decide)
  · exact ⟨rfl, inText⟩

/-! ## §3 Texts of matches -/

/-- No canonical text and no keyword holds a separator. -/
def DeclaresPlain (d : Dialect) : Prop :=
  d.vocabulary.EntriesSatisfy (fun entry => isPlainText entry.2 = true) ∧
    ∀ opening ∈ d.openings, isPlainText opening.1 = true

instance (d : Dialect) : Decidable d.DeclaresPlain :=
  inferInstanceAs (Decidable ((∀ table ∈ d.vocabulary.tables, ∀ entry ∈ table.entries,
    isPlainText entry.2 = true) ∧ ∀ opening ∈ d.openings, isPlainText opening.1 = true))

/-- The built-in games declare no separators. -/
theorem declaresPlain_builtIn : ∀ game ∈ Games.builtIn, game.dialect.DeclaresPlain := by
  decide +kernel

/-- A number holds no separator. -/
theorem isPlainText_of_natural? {t : Text} {n : Nat} (h : Text.natural? t = some n) :
    isPlainText t = true := by
  unfold Text.natural? at h
  split at h
  · next digits =>
    rw [Bool.and_eq_true, List.all_eq_true] at digits
    refine isPlainText_iff.2 fun x member => Bool.eq_false_iff.2 fun separator => ?_
    have digit := digits.2 x member
    rcases isSeparator_iff.1 separator with rfl | rfl
    · exact absurd digit (by decide)
    · exact absurd digit (by decide)
  · simp at h

/-- The text of a match holds no separator, or it is that of a captured clause. -/
theorem plain_or_captured_of_justified {clauses : List Text} {m : Match} (plain : d.DeclaresPlain)
    (h : d.Justified clauses m) : isPlainText m.text = true ∨
      ∃ clause ∈ clauses, m.text = Text.unwords (Clause.words clause) := by
  obtain ⟨entries, openings⟩ := plain
  rcases h with ⟨declared, same⟩ | ⟨same, clause, listed, whole, -⟩ | ⟨-, -, same, number⟩ |
    ⟨-, found⟩
  · have plain := isPlainText_iff.1 (openings _ declared)
    refine .inl (isPlainText_iff.2 fun x member => Bool.eq_false_iff.2 fun separator => ?_)
    rw [same] at member
    rw [plain x (ChainField.mem_of_mem_normalize separator member)] at separator
    exact Bool.noConfusion separator
  · exact .inr ⟨clause, listed, same.trans whole⟩
  · left
    rw [same]
    rcases number with ⟨isX, -⟩ | ⟨n, spelled, -⟩
    · rw [isX]
      decide
    · exact isPlainText_of_natural? spelled
  · left
    rcases found with found | ⟨_, _, _, -, -, found⟩
    · exact entries.of_lookup found
    · exact entries.of_lookup found

variable {options text} {m : Match}

/-- **A separator in the text of a match is a bar of the classified text.** -/
theorem bar_of_mem_found (built : d.vocabulary.Built) (plain : d.DeclaresPlain)
    (found : m ∈ (d.classify options text).trace.found) {x : Char} (member : x ∈ m.text)
    (separator : isSeparator x = true) : x = '|' ∧ '|' ∈ text := by
  rcases plain_or_captured_of_justified plain (justified_of_mem_found options text built found)
    with plain | ⟨clause, listed, whole⟩
  · rw [isPlainText_iff.1 plain x member] at separator
    exact Bool.noConfusion separator
  · rw [whole] at member
    rcases Text.mem_intercalate member with rfl | ⟨w, inClause, inWord⟩
    · exact absurd separator (by decide)
    · -- Lower case makes no separator, so it stands in the clause already.
      obtain ⟨range, inRanges, low, high⟩ := notLowerForm_of_isSeparator separator
      have inClause := Clause.mem_clause_of_mem_words inClause inWord range inRanges low high
      exact bar_of_mem_clause options text listed inClause separator

/-- **The text of a match is not made of separators and white space only.** -/
theorem exists_solid_of_mem_found (built : d.vocabulary.Built) (plain : d.DeclaresPlain)
    (found : m ∈ (d.classify options text).trace.found) :
    ∃ x ∈ m.text, Text.isSpace x = false ∧ isSeparator x = false := by
  have nonempty : m.text ≠ [] := m.component.isNonempty
  rcases plain_or_captured_of_justified plain (justified_of_mem_found options text built found)
    with plain | ⟨clause, -, whole⟩
  · obtain ⟨x, rest, split⟩ := List.exists_cons_of_ne_nil nonempty
    have member : x ∈ m.text := split ▸ List.mem_cons_self
    have solid := Text.isSpace_head?_of_isNormal m.component.isNormal_text
    exact ⟨x, member, solid x (congrArg List.head? split), isPlainText_iff.1 plain x member⟩
  · have proper : ∀ w ∈ Clause.words clause, Text.IsWord w :=
      fun _ member => (Clause.isLowerWord_of_mem_words member).1
    rw [whole, ne_eq, Text.unwords_eq_nil_iff proper] at nonempty
    obtain ⟨w, inClause⟩ := List.exists_mem_of_ne_nil _ nonempty
    obtain ⟨x, inWord, plain⟩ := exists_plain_of_mem_words inClause
    refine ⟨x, ?_, (proper w inClause).2 x inWord, plain⟩
    rw [whole]
    exact Text.mem_of_mem_words (by rwa [Text.words_unwords proper]) inWord

/-- A chain of the run has its components from the record, and no scalars. -/
theorem withoutScalars_classify : (d.classify options text).chain.withoutScalars =
    (d.classify options text).chain := by
  by_cases small : (d.readingOf options text).trace.IsUndersized (d.minimumFor options)
  · rw [d.classify_of_isUndersized _ _ small]
    rfl
  · rw [d.classify_of_not_isUndersized _ _ small]
    exact Chain.withoutScalars_ofList _

end Dialect

/-! ## §4 Chains that are written and read back -/

namespace ChainField

/-- **Classified chains survive being written.** The chain of a text of a built-in game is read back
as it was, in order, if the text has no bar in it; and in any case its components are read back in
order, without the bars in their texts. -/
theorem decodeChain_classify : ∀ game ∈ Games.builtIn, ∀ (options : ParseOptions) (text : Text),
    let chain := (game.dialect.classify options text).chain
    ('|' ∉ text → decodeChain (encodeChain chain) = .ok chain) ∧
    ∃ kept, List.Forall₂ (fun c d => d.category = c.category ∧ d.text = withoutBars c.text)
        chain.components kept ∧
      decodeChain (encodeChain chain) = .ok (Chain.ofList kept) := by
  intro game member options text chain
  have built := Games.vocabulary_built game member
  have plain := Dialect.declaresPlain_builtIn game member
  have bars : ∀ c ∈ chain.components, ∀ x ∈ c.text, isSeparator x = true →
      x = '|' ∧ '|' ∈ text := by
    intro c inChain x inText separator
    obtain ⟨m, found, rfl⟩ := Dialect.exists_match_of_mem_chain _ options text inChain
    exact Dialect.bar_of_mem_found built plain found inText separator
  constructor
  · intro noBar
    have noSeparator : ∀ c ∈ chain.components, ∀ x ∈ c.text, isSeparator x = false :=
      fun c inChain x inText => Bool.eq_false_iff.2 fun separator =>
        noBar (bars c inChain x inText separator).2
    have consistent := (Dialect.built_chain_classify game.dialect options text).consistent
    rw [decodeChain_encodeChain, mapM_reread_of_plain consistent noSeparator,
      Dialect.withoutScalars_classify]
  · refine decodeChain_encodeChain_of_not_mem_comma (fun c inChain comma => ?_)
      fun c inChain => ?_
    · exact absurd (bars c inChain ',' comma (by decide)).1 (by decide)
    · obtain ⟨m, found, rfl⟩ := Dialect.exists_match_of_mem_chain _ options text inChain
      obtain ⟨x, inText, solid, plain⟩ := Dialect.exists_solid_of_mem_found built plain found
      exact withoutSeparators_ne_nil inText solid plain

/-- A captured condition with a bar in it loses the bar, and one without a bar is read back as it
was. -/
theorem decodeChain_classify_captured :
    let classify := Games.Hearthstone.dialect.classify {}
    let barred := (classify "If you hold a dragon|beast, draw.").chain
    let whole := (classify "If you hold a dragon, draw.").chain
    barred.components.map Component.text = (["if you hold a dragon|beast", "draw"] : List Text) ∧
      (∃ kept, List.Forall₂ (fun c d => d.category = c.category ∧ d.text = withoutBars c.text)
          barred.components kept ∧
        decodeChain (encodeChain barred) = .ok (Chain.ofList kept)) ∧
      withoutBars "if you hold a dragon|beast" = ("if you hold a dragon beast" : Text) ∧
      whole.size = 2 ∧ decodeChain (encodeChain whole) = .ok whole := by
  have member : Games.Hearthstone.game ∈ Games.builtIn := by simp [Games.builtIn]
  have barred := decodeChain_classify Games.Hearthstone.game member {}
    "If you hold a dragon|beast, draw."
  have whole := decodeChain_classify Games.Hearthstone.game member {} "If you hold a dragon, draw."
  exact ⟨by decide +kernel, barred.2, by decide +kernel, by decide +kernel,
    whole.1 (by decide +kernel)⟩

end ChainField

end AbilityText

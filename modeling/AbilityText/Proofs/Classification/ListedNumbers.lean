/-
AbilityText.Proofs.Classification.ListedNumbers — which numbers a game lists, and which it reads.

Some games declare the numbers of a category: these are listed among the texts that a component of
the category may have. What is read as a number depends on the bounds of the policy instead, and the
two do not agree. The declared numbers end below the upper bound in three games of four, and a
number keeps the zeros that it opens with, which no listed one has. A number on record is listed
exactly when it is not too large and has no such zero (`Games.listed_iff_of_mem_chain`).

That nothing else decides comes from a row of digits being determined by its number when no zero
opens it (`Text.Spells.eq_of_spells`). That all numbers within the bounds are read is shown by a
sentence for each of them: behind an effect that takes a number, a clause of plain words that opens
with one is claimed by the policy (`Dialect.exists_component_of_accepts`).
-/
import AbilityText.Proofs.Classification.Numbers
import AbilityText.Proofs.Classification.Sentences
import AbilityText.Proofs.Clause.Spacing

namespace AbilityText

namespace Dialect

/-! ## §1 Declared numbers -/

/-- Are numbers of the category declared? -/
def DeclaresNumbers (d : Dialect) (category : Category) : Prop :=
  category ∈ d.numberCategories ∧ category ∈ d.vocabulary.declared.map Prod.fst

instance (d : Dialect) (category : Category) : Decidable (d.DeclaresNumbers category) :=
  inferInstanceAs (Decidable (_ ∧ _))

/-- The largest number that is listed for the category. -/
def listedUpTo (d : Dialect) (category : Category) : Nat :=
  ((d.components category).filterMap Text.natural?).foldl max 0

/-- The texts of the numbers from one up to `top`, and "x". -/
def numberTexts (top : Nat) : List Text := (List.range' 1 top).map Text.ofNat ++ [("x" : Text)]

/-- Which spellings stand among them. -/
theorem mem_numberTexts_iff {top n : Nat} {t : Text} (h : Text.Spells t n) (positive : 0 < n) :
    t ∈ numberTexts top ↔ n ≤ top ∧ t.head? ≠ some '0' := by
  have notX : t ≠ ['x'] := h.ne_x
  have listed : t ∈ numberTexts top ↔ ∃ k, (1 ≤ k ∧ k < 1 + top) ∧ Text.ofNat k = t := by
    simp [numberTexts, List.mem_range'_1, notX]
  rw [listed]
  constructor
  · rintro ⟨k, ⟨low, high⟩, rfl⟩
    obtain rfl := h.unique (Text.spells_ofNat k)
    exact ⟨by omega, Text.head?_ofNat positive⟩
  · rintro ⟨small, plain⟩
    exact ⟨n, ⟨positive, by omega⟩,
      (Text.spells_ofNat n).eq_of_spells h (Text.head?_ofNat positive) plain⟩

end Dialect

/-! ## §2 Clauses of plain words -/

namespace Text

/-- Words make a text that does not end in white space. -/
theorem endsSolid_unwords : ∀ {ws : List Text}, (∀ w ∈ ws, IsWord w) → EndsSolid (unwords ws)
  | [], _ => by simp [EndsSolid]
  | [w], proper => by
    rw [unwords_singleton]
    exact fun c last => (proper w (by simp)).2 c (List.mem_of_getLast? last)
  | w :: v :: ws, proper => by
    have later := endsSolid_unwords fun u member => proper u (List.mem_cons_of_mem w member)
    intro c last
    rw [unwords_cons_cons, List.getLast?_append, List.getLast?_cons, Option.some_or,
      Option.mem_some] at last
    cases behind : (unwords (v :: ws)).getLast? with
    | none =>
      have none := (unwords_eq_nil_iff fun u member => proper u (List.mem_cons_of_mem w member)).1
        (List.getLast?_eq_none_iff.1 behind)
      simp at none
    | some e =>
      rw [behind, Option.getD_some] at last
      exact last ▸ later e behind

end Text

namespace Clause

/-- A character that stands for itself wherever texts are cut and brought into normal form. The
letters of "then" and of possessive endings are left out. -/
structure IsPlainChar (c : Char) : Prop where
  solid : Text.isSpace c = false
  alphanumeric : Text.isAlphanumeric c = true
  notBreak : isBreak c = false
  notApostrophe : isApostrophe c = false
  notParenthesis : c ≠ '('
  notThen : c ≠ 't'
  notOwner : c ≠ 's'
  settled : Text.Settled c

/-- The digits and the letters that stand for themselves. -/
def plainChars : List Char := "0123456789abcdefghijklmnopqruvwxyz".toList

theorem isPlainChar_of_mem_plainChars {c : Char} (h : c ∈ plainChars) : IsPlainChar c := by
  have all : (plainChars.all fun c => decide (Text.isSpace c = false ∧
      Text.isAlphanumeric c = true ∧ isBreak c = false ∧ isApostrophe c = false ∧
      c ≠ '(' ∧ c ≠ 't' ∧ c ≠ 's' ∧ Text.lowerChar c = [c] ∧ c ≠ '\u03A3')) = true := by
    decide +kernel
  obtain ⟨solid, alphanumeric, notBreak, notApostrophe, notParenthesis, notThen, notOwner,
    settled⟩ := of_decide_eq_true (List.all_eq_true.1 all c h)
  exact ⟨solid, alphanumeric, notBreak, notApostrophe, notParenthesis, notThen, notOwner, settled⟩

/-- A word of such characters. -/
def IsPlainWord (w : Text) : Prop := w ≠ [] ∧ ∀ c ∈ w, IsPlainChar c

theorem isPlainWord_of_plainChars {w : Text} (nonempty : w ≠ [])
    (h : w.all plainChars.contains = true) : IsPlainWord w := by
  refine ⟨nonempty, fun c member => isPlainChar_of_mem_plainChars ?_⟩
  exact List.contains_iff_mem.1 (List.all_eq_true.1 h c member)

theorem IsPlainWord.isWord {w : Text} (h : IsPlainWord w) : Text.IsWord w :=
  ⟨h.1, fun c member => (h.2 c member).solid⟩

/-- Nothing separates a text without a break and without the first letter of "then". -/
theorem stretches_of_plain : ∀ {t : Text}, (∀ c ∈ t, isBreak c = false) → 't' ∉ t →
    stretches 0 t = [t]
  | [], _, _ => rfl
  | c :: t, noBreak, noThen => by
    have first : (c :: t).takeWhile isBreak = [] :=
      List.takeWhile_cons_of_neg (by simp [noBreak c])
    have word : (afterSpace? (c :: t)).bind (Text.after? "then") = none := by
      refine Option.eq_none_iff_forall_ne_some.2 fun rest found => ?_
      obtain ⟨behind, spaced, cut⟩ := Option.bind_eq_some_iff.1 found
      have inBehind : 't' ∈ behind := by
        rw [Text.after?_eq_some cut]
        simp
      exact noThen ((afterSpace?_suffix spaced).subset inBehind)
    have none : afterSeparator? (c :: t) = none := by
      rw [afterSeparator?, first, List.isEmpty_nil, if_pos rfl, word, Option.bind_none]
    exact stretches_cons_of_none none
      (stretches_of_plain (fun e member => noBreak e (List.mem_cons_of_mem c member))
        fun member => noThen (List.mem_cons_of_mem c member))

theorem readPlurals_of_not_mem : ∀ {t : Text}, '(' ∉ t → readPlurals t = t
  | [], _ => rfl
  | c :: t, missing => by
    obtain ⟨first, later⟩ := not_or.1 (mt List.mem_cons.2 missing)
    rw [readPlurals_cons (by simp [Text.after?, first]), readPlurals_of_not_mem later]

theorem bareWord_of_isPlainWord {w : Text} (h : IsPlainWord w) : bareWord w = w := by
  obtain ⟨-, plain⟩ := h
  have trimmed : Text.trimOf (fun c => !Text.isAlphanumeric c) w = w :=
    Text.trimOf_eq_self (fun c first => by simp [(plain c (List.mem_of_head? first)).alphanumeric])
      fun c last => by simp [(plain c (List.mem_of_getLast? last)).alphanumeric]
  have notOwner : ∀ ending : Text, 's' ∈ ending → Text.before? ending w = none := by
    intro ending inEnding
    refine Option.eq_none_iff_forall_ne_some.2 fun stem found => ?_
    have inWord : 's' ∈ w := by
      rw [Text.before?_eq_some found]
      exact List.mem_append_right stem inEnding
    exact (plain 's' inWord).notOwner rfl
  have kept : Text.trimEndOf isApostrophe w = w :=
    Text.trimEndOf_eq_self fun c last => (plain c (List.mem_of_getLast? last)).notApostrophe
  rw [bareWord, trimmed, notOwner _ (by decide), notOwner _ (by decide), Option.none_or,
    Option.getD_none, kept]
  exact Text.lower_of_settled fun c member => (plain c member).settled

/-- "x" and rows of digits are plain words. -/
theorem isPlainWord_of_spelled {w : Text} {p : Nat → Prop}
    (h : w = ("x" : Text) ∨ ∃ n, Text.Spells w n ∧ p n) : IsPlainWord w := by
  rcases h with rfl | ⟨n, ⟨nonempty, digits, -⟩, -⟩
  · exact isPlainWord_of_plainChars (by simp) (by decide)
  · refine isPlainWord_of_plainChars nonempty (List.all_eq_true.2 fun c member => ?_)
    have each : ∀ d < 10, plainChars.contains (Char.ofNat ('0'.toNat + d)) := by decide
    rw [← Text.ofNat_digit (digits c member).1]
    exact each _ (Text.digit_lt (digits c member).2)

theorem words_of_isPlainWord {w : Text} (h : IsPlainWord w) : words w = [w] := by
  have own : readPlurals w = w :=
    readPlurals_of_not_mem fun member => (h.2 '(' member).notParenthesis rfl
  rw [words, own, Text.words_of_isWord h.isWord, List.map_singleton, bareWord_of_isPlainWord h]
  simp [h.1]

theorem words_append_cons {c : Char} (space : Text.isSpace c = true) (t u : Text) :
    words (t ++ c :: u) = words t ++ words u := by
  rw [words, readPlurals_append_cons c space, Text.words_append_space space, List.map_append,
    List.filter_append]
  rfl

section
variable {ws : List Text} (plain : ∀ w ∈ ws, IsPlainWord w)
include plain

/-- Plain words are the words of the clause that they make. -/
theorem words_unwords : words (Text.unwords ws) = ws := by
  induction ws with
  | nil => rfl
  | cons w ws ih =>
    have first := words_of_isPlainWord (plain w (by simp))
    have later := ih fun v member => plain v (List.mem_cons_of_mem w member)
    cases ws with
    | nil => rw [Text.unwords_singleton, first]
    | cons v ws =>
      rw [Text.unwords_cons_cons, words_append_cons Text.isSpace_space, first, later]
      rfl

theorem mem_unwords {c : Char} (member : c ∈ Text.unwords ws) : c = ' ' ∨ IsPlainChar c := by
  rcases Text.mem_intercalate member with rfl | ⟨w, listed, inWord⟩
  · exact .inl rfl
  · exact .inr ((plain w listed).2 c inWord)

/-- The text that plain words make is in lower case, and no white space surrounds it. -/
theorem isTrimmedLower_unwords : (Text.unwords ws).IsTrimmedLower := by
  have proper : ∀ w ∈ ws, Text.IsWord w := fun w member => (plain w member).isWord
  constructor
  · refine Text.lower_of_settled fun c member => ?_
    rcases mem_unwords plain member with rfl | own
    · exact Text.settled_of_isSpace Text.isSpace_space
    · exact own.settled
  · exact Text.trimOf_eq_self (Text.isSpace_head?_unwords proper) (Text.endsSolid_unwords proper)

theorem ofText_unwords (nonempty : ws ≠ []) : ofText (Text.unwords ws) = [Text.unwords ws] := by
  have proper : ∀ w ∈ ws, Text.IsWord w := fun w member => (plain w member).isWord
  have noBreak : ∀ c ∈ Text.unwords ws, isBreak c = false := by
    intro c member
    rcases mem_unwords plain member with rfl | own
    · decide
    · exact own.notBreak
  have noThen : 't' ∉ Text.unwords ws := by
    intro member
    rcases mem_unwords plain member with space | own
    · exact absurd space (by decide)
    · exact own.notThen rfl
  have solid : Text.unwords ws ≠ [] := mt (Text.unwords_eq_nil_iff proper).1 nonempty
  rw [ofText, stretches_of_plain noBreak noThen, List.map_singleton,
    (isTrimmedLower_unwords plain).trim]
  simp [solid]

end

end Clause

namespace Dialect

/-! ## §3 Reading a number -/

variable {d : Dialect} {window : Nat} {ctx : Context} {word : Text} {rest : List Text}

/-- Behind an effect that takes a number, the policy claims the number. -/
theorem bestClaim?_number (numbers : d.NoNumberOpensPhrase) (tried : .number ∈ d.order)
    (proper : Text.IsWord word) (accepted : d.numeric.accepts word = true)
    (taken : ctx.effect.any d.takesNumber = true) :
    d.bestClaim? window ctx none (word :: rest) =
      some ⟨d.numeric.categoryBefore rest.head?, word, 1⟩ := by
  have table : ∀ category, d.tableClaim? window ctx category (word :: rest) = none := by
    intro category
    exact Option.eq_none_iff_forall_ne_some.2 fun claim found =>
      not_isTableClaim_of_accepts numbers proper accepted (tableClaim?_eq_some found).2
  have number : d.numberClaim? ctx (word :: rest) =
      some ⟨d.numeric.categoryBefore rest.head?, word, 1⟩ := by
    obtain ⟨effect, known, takes⟩ := (Option.any_eq_true _ _).1 taken
    simp [numberClaim?, known, takes, accepted]
  have found : ∀ steps : List Step, .number ∈ steps →
      steps.findSome? (d.stepClaim? window ctx (word :: rest)) =
        some ⟨d.numeric.categoryBefore rest.head?, word, 1⟩ := by
    intro steps member
    induction steps with
    | nil => simp at member
    | cons step steps ih =>
      cases step with
      | number => rw [List.findSome?_cons, stepClaim?, number]
      | table category =>
        rw [List.findSome?_cons, stepClaim?, table]
        exact ih (by simpa using member)
  exact found d.order tried

/-- No capture opens with a number. -/
def NoNumberOpensCapture (d : Dialect) : Prop :=
  ∀ capture ∈ d.captures,
    (Text.words capture.1).head?.any (fun first => !d.numeric.accepts first) = true

instance (d : Dialect) : Decidable d.NoNumberOpensCapture :=
  inferInstanceAs (Decidable (∀ capture ∈ d.captures,
    (Text.words capture.1).head?.any (fun first => !d.numeric.accepts first) = true))

/-- So the first finding of a clause that opens with a number is the number. -/
theorem exists_readClause_number (numbers : d.NoNumberOpensPhrase)
    (captures : d.NoNumberOpensCapture) (tried : .number ∈ d.order) (proper : Text.IsWord word)
    (accepted : d.numeric.accepts word = true) (taken : ctx.effect.any d.takesNumber = true) :
    ∃ findings, d.readClause window ctx (word :: rest) =
      .ofPhrase word (d.numeric.categoryBefore rest.head?) word :: findings := by
  have free : d.capture? (word :: rest) = none := by
    refine Option.eq_none_iff_forall_ne_some.2 fun category found => ?_
    obtain ⟨capture, listed, -, opens⟩ := capture?_eq_some found
    obtain ⟨first, head, other⟩ := (Option.any_eq_true _ _).1 (captures capture listed)
    obtain ⟨later, split⟩ := List.head?_eq_some_iff.1 head
    rw [split, List.cons_prefix_cons] at opens
    rw [opens.1, accepted] at other
    simp at other
  have best : d.bestClaim? window ctx none (word :: rest) =
      some ⟨d.numeric.categoryBefore rest.head?, word, 1⟩ :=
    bestClaim?_number numbers tried proper accepted taken
  rw [readClause, free, if_neg (by simp)]
  dsimp only
  rw [readWords_of_claim best]
  simp only [List.take_succ_cons, List.take_zero, Text.unwords_singleton]
  exact ⟨_, rfl⟩

/-- Behind the lead a number is looked for, and with the unit it has the category. -/
structure LeadsToNumber (d : Dialect) (lead : Text) (unit : Option Text) (category : Category) :
    Prop where
  effect : (Context.afterAll {} (d.readingOf {} lead).findings).effect.any d.takesNumber = true
  found : ∃ m ∈ (d.classify {} lead).trace.found, m.category ≠ category
  category : d.numeric.categoryBefore unit = category
  minimum : d.minimumFor {} ≤ 2
  tried : .number ∈ d.order

instance (d : Dialect) (lead : Text) (unit : Option Text) (category : Category) :
    Decidable (d.LeadsToNumber lead unit category) :=
  decidable_of_iff
    ((Context.afterAll {} (d.readingOf {} lead).findings).effect.any d.takesNumber = true ∧
      (∃ m ∈ (d.classify {} lead).trace.found, m.category ≠ category) ∧
      d.numeric.categoryBefore unit = category ∧ d.minimumFor {} ≤ 2 ∧ .number ∈ d.order)
    ⟨fun ⟨effect, found, category, minimum, tried⟩ => ⟨effect, found, category, minimum, tried⟩,
     fun h => ⟨h.effect, h.found, h.category, h.minimum, h.tried⟩⟩

/-- Two matches of different categories are enough for a chain of two components. -/
theorem mem_chain_of_found {options : ParseOptions} {text : Text} {m other : Match}
    (minimum : d.minimumFor options ≤ 2) (found : m ∈ (d.classify options text).trace.found)
    (foundOther : other ∈ (d.classify options text).trace.found)
    (differ : other.category ≠ m.category) :
    m.component ∈ (d.classify options text).chain.components := by
  have distinct : ∀ n ∈ (d.classify options text).trace.found,
      n.component ∈ (d.classify options text).trace.distinctComponents := fun n member => by
    rw [Trace.distinctComponents, List.mem_eraseDups]
    exact List.mem_map_of_mem member
  have kept : ¬(d.classify options text).trace.IsUndersized (d.minimumFor options) := by
    rintro ⟨-, few⟩
    have nodup : [other.component, m.component].Nodup := by
      have : other.component ≠ m.component := fun same => differ (congrArg Component.category same)
      simpa using this
    have both : [other.component, m.component] ⊆
        (d.classify options text).trace.distinctComponents := by
      simpa using ⟨distinct other foundOther, distinct m found⟩
    have two := (List.subperm_of_subset nodup both).length_le
    rw [List.length_cons, List.length_singleton] at two
    omega
  rw [(d.components_of_not_isUndersized options text kept).2]
  exact distinct m found

/-- A number, and the unit if there is one, in a sentence behind the lead. -/
def numberText (lead word : Text) (unit : Option Text) : Text :=
  lead ++ '.' :: Text.unwords (word :: unit.toList)

/-- **A plain word that the policy takes is read.** It makes a component behind a sentence that
leads to it. -/
theorem exists_component_of_accepts {lead : Text} {unit : Option Text} {category : Category}
    (leads : d.LeadsToNumber lead unit category) (read : lead.IsTrimmedLower)
    (plainUnit : ∀ u ∈ unit, Clause.IsPlainWord u) (ends : d.EndsSentence '.')
    (numbers : d.NoNumberOpensPhrase) (captures : d.NoNumberOpensCapture)
    (own : Clause.IsPlainWord word) (accepted : d.numeric.accepts word = true) :
    ∃ c ∈ (d.classify {} (numberText lead word unit)).chain.components,
      c.category = category ∧ c.text = word := by
  have plain : ∀ w ∈ word :: unit.toList, Clause.IsPlainWord w := by
    simpa using ⟨own, plainUnit⟩
  obtain ⟨c, made, sameCategory, text⟩ :=
    Component.new_of_not_blank category (Text.isBlank_of_isWord own.isWord)
  have normal : Text.normalize word = word := by
    rw [Text.normalize, Text.words_of_isWord own.isWord, List.map_singleton, Text.unwords_singleton]
    exact Text.lower_of_settled fun c member => (own.2 c member).settled
  -- The match of the number stands behind those of the lead, one of which is of another category.
  have joined : (d.classify {} (numberText lead word unit)).trace.found =
      (d.classify {} lead).trace.found ++
        ((d.readBehind {} lead (Text.unwords (word :: unit.toList))).flatMap
          ClauseReading.findings).filterMap Finding.match? := by
    rw [numberText]
    exact found_append ends read (Clause.isTrimmedLower_unwords plain)
  have found : (⟨word, c⟩ : Match) ∈ (d.classify {} (numberText lead word unit)).trace.found := by
    rw [joined, readBehind, Clause.ofText_unwords plain (by simp), List.mem_append]
    right
    obtain ⟨findings, reads⟩ := exists_readClause_number numbers captures leads.tried own.isWord
      accepted leads.effect
    simp only [readClauses, Clause.words_unwords plain]
    rw [reads, unit.head?_toList, leads.category, Finding.ofPhrase, made]
    simp [Finding.match?]
  obtain ⟨other, first, differ⟩ := leads.found
  have foundOther : other ∈ (d.classify {} (numberText lead word unit)).trace.found := by
    rw [joined]
    exact List.mem_append_left _ first
  have differs : other.category ≠ (⟨word, c⟩ : Match).category := by
    rw [show (⟨word, c⟩ : Match).category = category from sameCategory]
    exact differ
  exact ⟨c, mem_chain_of_found leads.minimum found foundOther differs, sameCategory,
    text.trans normal⟩

end Dialect

/-! ## §4 The built-in games -/

namespace Games

variable {game : Game} {category : Category}

theorem components_of_declaresNumbers : ∀ game ∈ builtIn, ∀ category ∈ Category.all,
    game.dialect.DeclaresNumbers category → game.dialect.components category =
      Dialect.numberTexts (game.dialect.listedUpTo category) := by
  decide +kernel

/-- The declared numbers with the largest one that is listed and the largest one that is read. -/
example : (builtIn.flatMap fun game =>
      (Category.all.filter fun category => decide (game.dialect.DeclaresNumbers category)).map
        fun category => (game.dialect.key, category, game.dialect.listedUpTo category,
          game.dialect.numeric.max)) =
    ([("magic", .value, 10, 15), ("hearthstone", .value, 10, 15), ("lorcana", .ink, 3, 10),
      ("lorcana", .lore, 3, 10), ("fleshandblood", .value, 6, 6)] :
        List (Text × Category × Nat × Nat)) := by
  decide +kernel

/-- The policies take "x" and no zero, and their bounds fit into 32 bits. -/
theorem allowX_and_bounds : ∀ game ∈ builtIn, game.dialect.numeric.allowX = true ∧
    0 < game.dialect.numeric.min ∧ game.dialect.numeric.max < 2 ^ 32 := by
  decide

theorem noNumberOpensCapture : ∀ game ∈ builtIn, game.dialect.NoNumberOpensCapture := by
  decide +kernel

/-- The word that gives a number the category, when it is not the category of plain numbers. -/
def unitOf : Category → Option Text
  | .lore => some "lore"
  | .ink => some "ink"
  | _ => none

theorem leadsToNumber : ∀ game ∈ builtIn, ∀ category ∈ Category.all,
    game.dialect.DeclaresNumbers category →
      game.dialect.LeadsToNumber "draw" (unitOf category) category := by
  decide +kernel

theorem isPlainWord_of_mem_unitOf {unit : Text} (h : unit ∈ unitOf category) :
    Clause.IsPlainWord unit := by
  have plain : ∀ category ∈ Category.all, ∀ unit ∈ unitOf category,
      unit ≠ [] ∧ unit.all Clause.plainChars.contains = true := by
    decide
  obtain ⟨nonempty, each⟩ := plain category (Category.mem_all category) unit h
  exact Clause.isPlainWord_of_plainChars nonempty each

/-- What has the category of declared numbers is "x" or a number within the bounds. -/
theorem spelled_of_mem_chain (member : game ∈ builtIn)
    (declares : game.dialect.DeclaresNumbers category) {options : ParseOptions} {text : Text}
    {c : Component} (inChain : c ∈ (game.dialect.classify options text).chain.components)
    (own : c.category = category) :
    c.text = ("x" : Text) ∨ ∃ n, Text.Spells c.text n ∧
      game.dialect.numeric.min ≤ n ∧ n ≤ game.dialect.numeric.max := by
  obtain ⟨m, found, rfl⟩ := Dialect.exists_match_of_mem_chain _ options text inChain
  obtain ⟨before, after, split⟩ := List.append_of_mem found
  have number : m.category ∈ game.dialect.numberCategories := by
    rw [show m.category = category from own]
    exact declares.1
  obtain ⟨later, -, governs⟩ :=
    Dialect.governs_of_found (keepsNumbersApart game member) options text split number
  exact governs.spelled

/-- Each of them is on record of a text. -/
theorem exists_component_of_spelled (member : game ∈ builtIn)
    (declares : game.dialect.DeclaresNumbers category) {word : Text}
    (spelled : word = ("x" : Text) ∨ ∃ n, Text.Spells word n ∧
      game.dialect.numeric.min ≤ n ∧ n ≤ game.dialect.numeric.max) :
    ∃ c ∈ (game.dialect.classify {}
        (Dialect.numberText "draw" word (unitOf category))).chain.components,
      c.category = category ∧ c.text = word := by
  obtain ⟨allowX, -, bounded⟩ := allowX_and_bounds game member
  exact Dialect.exists_component_of_accepts
    (leadsToNumber game member category (Category.mem_all category) declares)
    ⟨by decide, by decide⟩ (fun _ => isPlainWord_of_mem_unitOf) (endsSentence game member)
    (noNumberOpensPhrase game member) (noNumberOpensCapture game member)
    (Clause.isPlainWord_of_spelled spelled)
    (NumberPolicy.accepts_of_spelled allowX bounded spelled)

/-- **Which numbers are listed, and which are read.** Wherever a game declares numbers, a component
of that category is listed exactly when its text is "x", or a number that is no larger than the
largest one listed and that no zero opens. The texts of these components are "x" and all the rows of
digits within the bounds of the policy, whatever zeros open them. -/
theorem listed_iff_of_mem_chain : ∀ game ∈ builtIn, ∀ category,
    game.dialect.DeclaresNumbers category →
      (∀ (options : ParseOptions) (text : Text),
        ∀ c ∈ (game.dialect.classify options text).chain.components, c.category = category →
          (c.text ∈ game.dialect.components category ↔
            c.text = ("x" : Text) ∨
              ∃ n ≤ game.dialect.listedUpTo category,
                Text.Spells c.text n ∧ c.text.head? ≠ some '0')) ∧
      ∀ word : Text,
        (∃ (options : ParseOptions) (text : Text),
          ∃ c ∈ (game.dialect.classify options text).chain.components,
            c.category = category ∧ c.text = word) ↔
        word = ("x" : Text) ∨
          ∃ n, Text.Spells word n ∧
            game.dialect.numeric.min ≤ n ∧ n ≤ game.dialect.numeric.max := by
  intro game member category declares
  refine ⟨fun options text c inChain own => ?_, fun word => ⟨?_, fun spelled => ?_⟩⟩
  · rw [components_of_declaresNumbers game member category (Category.mem_all category) declares]
    rcases spelled_of_mem_chain member declares inChain own with x | ⟨n, spelled, low, -⟩
    · exact iff_of_true (by rw [x, Dialect.numberTexts]; simp) (.inl x)
    · have positive : 0 < n := (allowX_and_bounds game member).2.1.trans_le low
      rw [Dialect.mem_numberTexts_iff spelled positive]
      constructor
      · rintro ⟨small, plain⟩
        exact .inr ⟨n, small, spelled, plain⟩
      · rintro (x | ⟨k, small, spelled', plain⟩)
        · exact absurd x spelled.ne_x
        · exact ⟨spelled.unique spelled' ▸ small, plain⟩
  · rintro ⟨options, text, c, inChain, own, rfl⟩
    exact spelled_of_mem_chain member declares inChain own
  · exact ⟨{}, _, exists_component_of_spelled member declares spelled⟩

/-- A sentence with a number that is within the bounds and not listed. -/
def twelveText : Text := "Deal 12 damage"

theorem exists_component_twelveText :
    ∃ c ∈ (Magic.game.dialect.classify {} twelveText).chain.components,
      c.category = .value ∧ c.text = ("12" : Text) := by
  decide +kernel

/-- In Magic, twelve is read behind "deal", and it is not among the numbers up to ten. -/
theorem listed_iff_of_mem_chain_twelve :
    Magic.game ∈ builtIn ∧ Magic.game.dialect.DeclaresNumbers .value ∧
      ∃ c ∈ (Magic.game.dialect.classify {} twelveText).chain.components,
        c.category = .value ∧ c.text = ("12" : Text) ∧
        (c.text ∈ Magic.game.dialect.components .value ↔
          c.text = ("x" : Text) ∨
            ∃ n ≤ 10, Text.Spells c.text n ∧ c.text.head? ≠ some '0') := by
  have member : Magic.game ∈ builtIn := by simp [builtIn]
  have declares : Magic.game.dialect.DeclaresNumbers .value := by decide +kernel
  have largest : Magic.game.dialect.listedUpTo .value = 10 := by decide +kernel
  obtain ⟨c, inChain, own, twelve⟩ := exists_component_twelveText
  have listed := (listed_iff_of_mem_chain Magic.game member .value declares).1 {} twelveText c
    inChain own
  rw [largest] at listed
  exact ⟨member, declares, c, inChain, own, twelve, listed⟩

/-- Not every number that is read is listed. -/
theorem exists_not_listed_of_mem_chain :
    ¬∀ game ∈ builtIn, ∀ category, game.dialect.DeclaresNumbers category →
      ∀ (options : ParseOptions) (text : Text),
        ∀ c ∈ (game.dialect.classify options text).chain.components, c.category = category →
          c.text ∈ game.dialect.components category := by
  intro all
  have member : Magic.game ∈ builtIn := by simp [builtIn]
  have declares : Magic.game.dialect.DeclaresNumbers .value := by decide +kernel
  obtain ⟨c, inChain, own, twelve⟩ := exists_component_twelveText
  have listed := all Magic.game member .value declares {} twelveText c inChain own
  rw [twelve] at listed
  exact absurd listed (by decide +kernel)

end Games

end AbilityText

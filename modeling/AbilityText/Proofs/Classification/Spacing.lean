/-
AbilityText.Proofs.Classification.Spacing — runs of one text in two layouts.

Clauses are read word by word, so their spacing makes no difference (`outcomes_readClauses`). A
keyword before a colon is looked for letter by letter: a keyword of several words is missed where
the text does not write it with single spaces. Runs agree where the same keywords open both layouts
(`agrees_of_keywordsIn_eq`), and the same keywords do where both keep the spacing of the keywords
(`keywordsIn_eq`). Where nothing but keywords has their category, the record tells which keywords
opened the text (`map_found`).
-/
import AbilityText.Proofs.Classification.Agreement
import AbilityText.Proofs.Classification.Alike
import AbilityText.Proofs.Classification.Soundness
import AbilityText.Proofs.Clause.Spacing

namespace AbilityText

namespace Dialect

open Text (squeeze IsPhrase KeepsSpacing)

variable {d : Dialect} {a b t : Text}

/-! ## §1 Keywords in two layouts -/

/-- The keywords that open a text. -/
def keywordsIn (d : Dialect) (text : Text) : List (Text × Category) :=
  (d.openingsOf (Text.lower (Text.trim text))).1

/-- What follows the colon behind a keyword that opens the text. -/
def bodyAfter? (keyword t : Text) : Option Text :=
  (Text.after? keyword t).bind fun rest => Text.after? ":" (Text.trimStart rest)

theorem isWord_colon : Text.IsWord (":" : Text) := by decide

section
variable {keyword : Text} (isPhrase : IsPhrase keyword)
include isPhrase

theorem bodyAfter?_squeeze_of_eq_some {body : Text} (opens : bodyAfter? keyword t = some body) :
    bodyAfter? keyword (squeeze t) = some (squeeze body) := by
  obtain ⟨rest, keyed, colon⟩ := Option.bind_eq_some_iff.1 opens
  rw [bodyAfter?, Text.after?_squeeze_of_eq_some isPhrase keyed, Option.bind_some, Text.trimStart,
    Text.dropWhile_isSpace_squeeze]
  exact Text.after?_squeeze_of_eq_some (Text.isPhrase_of_isWord isWord_colon) colon

theorem bodyAfter?_squeeze (keeps : KeepsSpacing keyword t) :
    bodyAfter? keyword (squeeze t) = (bodyAfter? keyword t).map squeeze := by
  rw [bodyAfter?, bodyAfter?, Text.after?_squeeze isPhrase keeps]
  cases Text.after? keyword t with
  | none => rfl
  | some rest =>
    rw [Option.map_some, Option.bind_some, Option.bind_some, Text.trimStart,
      Text.dropWhile_isSpace_squeeze]
    exact Text.after?_squeeze_of_isWord isWord_colon _

end

section
variable (phrases : ∀ opening ∈ d.openings, IsPhrase opening.1) (same : squeeze a = squeeze b)
include phrases same

/-- What one keyword leaves of two layouts of a text are layouts of one text. -/
theorem squeeze_eq_of_opening? {keyword x y : Text} {category category' : Category}
    (first : d.opening? a = some (keyword, category, x))
    (second : d.opening? b = some (keyword, category', y)) : squeeze x = squeeze y := by
  obtain ⟨opening, member, opens⟩ := List.exists_of_findSome?_eq_some first
  obtain ⟨body, found, shape⟩ := Option.map_eq_some_iff.1 opens
  obtain ⟨opening', member', opens'⟩ := List.exists_of_findSome?_eq_some second
  obtain ⟨body', found', shape'⟩ := Option.map_eq_some_iff.1 opens'
  rw [Prod.mk.injEq, Prod.mk.injEq] at shape shape'
  obtain ⟨rfl, -, rfl⟩ := shape
  obtain ⟨keywords, -, rfl⟩ := shape'
  rw [keywords] at found'
  have one := bodyAfter?_squeeze_of_eq_some (phrases opening member) found
  have other := bodyAfter?_squeeze_of_eq_some (phrases opening member) found'
  rw [same, other, Option.some_inj] at one
  rw [Text.squeeze_trim, Text.squeeze_trim, ← Text.collapse_squeeze body,
    ← Text.collapse_squeeze body', one]

/-- Where the same keywords open two layouts of a text, the rests are layouts of one text. -/
theorem squeeze_openingsWithin (bound : Nat)
    (keywords : (d.openingsWithin bound a).1 = (d.openingsWithin bound b).1) :
    squeeze (d.openingsWithin bound a).2 = squeeze (d.openingsWithin bound b).2 := by
  induction bound generalizing a b with
  | zero => exact same
  | succ bound ih =>
    cases first : d.opening? a with
    | none =>
      cases second : d.opening? b with
      | none => rwa [openingsWithin_of_none first, openingsWithin_of_none second]
      | some found => simp [openingsWithin, first, second] at keywords
    | some found =>
      cases second : d.opening? b with
      | none => simp [openingsWithin, first, second] at keywords
      | some found' =>
        obtain ⟨keyword, category, x⟩ := found
        obtain ⟨keyword', category', y⟩ := found'
        simp only [openingsWithin, first, second, List.cons.injEq, Prod.mk.injEq] at keywords ⊢
        obtain ⟨⟨rfl, rfl⟩, later⟩ := keywords
        exact ih (squeeze_eq_of_opening? phrases same first second) later

end

/-! ## §2 Keywords that keep their spacing -/

/-- The text writes every keyword of the dialect with single spaces. -/
def KeepsKeywords (d : Dialect) (t : Text) : Prop :=
  ∀ opening ∈ d.openings, KeepsSpacing opening.1 t

theorem KeepsKeywords.of_suffix {body : Text} (keeps : d.KeepsKeywords t) (inText : body <:+ t) :
    d.KeepsKeywords body :=
  fun opening member => (keeps opening member).of_suffix inText

/-- A keyword with its category and the squeezed rest. -/
def outline (found : Text × Category × Text) : Text × Category × Text :=
  (found.1, found.2.1, squeeze found.2.2)

section
variable (phrases : ∀ opening ∈ d.openings, IsPhrase opening.1)
include phrases

theorem opening?_squeeze (keeps : d.KeepsKeywords t) :
    (d.opening? (squeeze t)).map outline = (d.opening? t).map outline := by
  refine Text.map_findSome?_congr fun opening member => ?_
  have bodies := bodyAfter?_squeeze (phrases opening member) (keeps opening member)
  simp only [bodyAfter?] at bodies
  rw [bodies, Option.map_map, Option.map_map, Option.map_map]
  congr 1
  funext body
  simp only [Function.comp, outline, Text.squeeze_trim, Text.collapse_squeeze]

end

/-- A keyword takes the start of a text. -/
theorem suffix_of_opening? {keyword body : Text} {category : Category}
    (last : ∀ c ∈ t.getLast?, Text.isSpace c = false)
    (opens : d.opening? t = some (keyword, category, body)) : body <:+ t := by
  obtain ⟨-, rest, after, shape, colon, rfl⟩ := opening?_inv opens
  have inText : after <:+ t := calc
    after <:+ Text.trimStart rest := ⟨[':'], colon.symm⟩
    _ <:+ rest := List.dropWhile_suffix _
    _ <:+ t := ⟨keyword, shape.symm⟩
  rw [Text.trim_of_getLast? fun c ends => last c (Text.mem_getLast?_of_suffix inText c ends)]
  exact (List.dropWhile_suffix _).trans inText

/-- Where two layouts of a text keep the spacing of all keywords, the same keywords open them. -/
theorem keywords_openingsWithin (phrases : ∀ opening ∈ d.openings, IsPhrase opening.1)
    (bound : Nat) (same : squeeze a = squeeze b)
    (keepsA : d.KeepsKeywords a) (lastA : ∀ c ∈ a.getLast?, Text.isSpace c = false)
    (keepsB : d.KeepsKeywords b) (lastB : ∀ c ∈ b.getLast?, Text.isSpace c = false) :
    (d.openingsWithin bound a).1 = (d.openingsWithin bound b).1 := by
  induction bound generalizing a b with
  | zero => rfl
  | succ bound ih =>
    have agree : (d.opening? a).map outline = (d.opening? b).map outline := by
      rw [← opening?_squeeze phrases keepsA, same, opening?_squeeze phrases keepsB]
    cases first : d.opening? a with
    | none =>
      rw [first, Option.map_none, eq_comm, Option.map_eq_none_iff] at agree
      rw [openingsWithin_of_none first, openingsWithin_of_none agree]
    | some found =>
      obtain ⟨keyword, category, x⟩ := found
      rw [first, Option.map_some, eq_comm, Option.map_eq_some_iff] at agree
      obtain ⟨⟨keyword', category', y⟩, second, equal⟩ := agree
      simp only [outline, Prod.mk.injEq] at equal
      obtain ⟨rfl, rfl, rest⟩ := equal
      have inA := suffix_of_opening? lastA first
      have inB := suffix_of_opening? lastB second
      simp only [openingsWithin, first, second]
      rw [ih rest.symm (keepsA.of_suffix inA)
        (fun c ends => lastA c (Text.mem_getLast?_of_suffix inA c ends)) (keepsB.of_suffix inB)
        (fun c ends => lastB c (Text.mem_getLast?_of_suffix inB c ends))]

end Dialect

/-! ## §3 Runs that agree -/

/-- Two runs make the same chain of the same matches, with the same words dropped. -/
structure Run.Agrees (run other : Run) : Prop where
  chain_eq : run.chain = other.chain
  found_eq : run.trace.found = other.trace.found
  dropped_eq : run.trace.dropped = other.trace.dropped
  tokens_eq : run.trace.tokens = other.trace.tokens
  shortcut_eq : run.trace.shortcut = other.trace.shortcut

namespace Dialect

open Text (squeeze IsPhrase KeepsSpacing)

variable {d : Dialect} {a b : Text}

theorem chain_classify (options : ParseOptions) (text : Text) :
    (d.classify options text).chain =
      let chain := (d.readingOf options text).chain
      if !chain.isEmpty && chain.size < d.minimumFor options then .empty else chain :=
  apply_ite Run.chain _ _ _

/-- Readings agree that have the same keywords, and clauses with the same words and findings. -/
theorem agrees_of_outcomes {options : ParseOptions}
    (keywords : (d.readingOf options a).keywords = (d.readingOf options b).keywords)
    (outcomes : (d.readingOf options a).clauses.map ClauseReading.outcome =
      (d.readingOf options b).clauses.map ClauseReading.outcome) :
    (d.classify options a).Agrees (d.classify options b) := by
  have words := congrArg (List.flatMap Prod.fst) outcomes
  have found := congrArg (List.flatMap Prod.snd) outcomes
  rw [List.flatMap_map, List.flatMap_map] at words found
  have findings : (d.readingOf options a).findings = (d.readingOf options b).findings := by
    rw [Reading.findings, Reading.findings, keywords]
    exact congrArg _ found
  constructor
  · have chains : (d.readingOf options a).chain = (d.readingOf options b).chain := by
      rw [Reading.chain, Reading.chain, Reading.found, Reading.found, findings]
    rw [chain_classify, chain_classify, chains]
  · rw [found_eq_found_readingOf, found_eq_found_readingOf, Reading.found, Reading.found, findings]
  · rw [dropped_eq_dropped_readingOf, dropped_eq_dropped_readingOf, findings]
  · rw [tokens_classify, tokens_classify]
    exact congrArg List.length words
  · rw [shortcut_classify, shortcut_classify, keywords]

/-- One bound on the number of keywords serves two texts. -/
theorem exists_bound (d : Dialect) (a b : Text) : ∃ bound,
    d.openingsOf a = d.openingsWithin bound a ∧ d.openingsOf b = d.openingsWithin bound b := by
  refine ⟨a.length + b.length, ?_, ?_⟩
  · have room : a.count ':' ≤ a.length + b.length :=
      Nat.le_trans List.count_le_length (Nat.le_add_right _ _)
    exact openingsWithin_eq_of_count_le List.count_le_length room
  · have room : b.count ':' ≤ a.length + b.length :=
      Nat.le_trans List.count_le_length (Nat.le_add_left _ _)
    exact openingsWithin_eq_of_count_le List.count_le_length room

section
variable (phrases : ∀ opening ∈ d.openings, IsPhrase opening.1)
  (same : Text.words a = Text.words b)
include phrases same

/-- **The runs of two layouts of a text agree where the same keywords open both.** -/
theorem agrees_of_keywordsIn_eq (options : ParseOptions)
    (keywords : d.keywordsIn a = d.keywordsIn b) :
    (d.classify options a).Agrees (d.classify options b) := by
  have squeezed := Text.squeeze_lower_trim_congr same
  obtain ⟨bound, boundA, boundB⟩ :=
    d.exists_bound (Text.lower (Text.trim a)) (Text.lower (Text.trim b))
  have bodies : squeeze (d.openingsOf (Text.lower (Text.trim a))).2 =
      squeeze (d.openingsOf (Text.lower (Text.trim b))).2 := by
    rw [keywordsIn, keywordsIn, boundA, boundB] at keywords
    rw [boundA, boundB]
    exact squeeze_openingsWithin phrases squeezed bound keywords
  have clauses := congrArg (fun body => (Clause.ofText body).map Clause.words) bodies
  simp only [Clause.map_words_ofText_squeeze] at clauses
  have openings : d.openingFindings a = d.openingFindings b :=
    congrArg (List.map fun opening : Text × Category =>
      Finding.ofPhrase opening.1 opening.2 opening.1) keywords
  refine agrees_of_outcomes ?_ ?_
  · exact congrArg
      (List.map fun opening : Text × Category =>
        (opening.1, Finding.ofPhrase opening.1 opening.2 opening.1)) keywords
  · rw [clauses_readingOf, clauses_readingOf, openings]
    exact outcomes_readClauses clauses _

/-- Where both layouts keep the spacing of the keywords, the same keywords open them. -/
theorem keywordsIn_eq (keepsA : d.KeepsKeywords (Text.lower (Text.trim a)))
    (keepsB : d.KeepsKeywords (Text.lower (Text.trim b))) : d.keywordsIn a = d.keywordsIn b := by
  obtain ⟨bound, boundA, boundB⟩ :=
    d.exists_bound (Text.lower (Text.trim a)) (Text.lower (Text.trim b))
  rw [keywordsIn, keywordsIn, boundA, boundB]
  exact keywords_openingsWithin phrases bound (Text.squeeze_lower_trim_congr same)
    keepsA (Text.isTrimmed_lower (Text.isTrimmed_trim a)).2
    keepsB (Text.isTrimmed_lower (Text.isTrimmed_trim b)).2

end

/-! ## §4 Keywords on record -/

/-- Nothing but a keyword has the category of a keyword. -/
structure KeywordsShow (d : Dialect) : Prop where
  built : d.vocabulary.Built
  solid : ∀ opening ∈ d.openings, Text.isBlank opening.1 = false
  notInTables : ∀ opening ∈ d.openings, d.vocabulary.categories.has opening.2 = false
  noNumber : ∀ opening ∈ d.openings, opening.2 ∉ d.numberCategories
  noCapture : ∀ opening ∈ d.openings, ∀ capture ∈ d.captures, capture.2 ≠ opening.2

/-- Does the match have a category of keywords? -/
def isOfKeyword (d : Dialect) (m : Match) : Bool := (d.openings.map Prod.snd).contains m.category

theorem isOfKeyword_eq_false {m : Match} :
    d.isOfKeyword m = false ↔ ∀ opening ∈ d.openings, opening.2 ≠ m.category := by
  rw [isOfKeyword, Bool.eq_false_iff, ne_eq, List.contains_iff_mem, List.mem_map]
  simp only [not_exists, not_and, ne_eq]

section
variable (shown : d.KeywordsShow)
include shown

/-- What is found in a clause has no category of keywords. -/
theorem isOfKeyword_of_clauseRead {window : Nat} {ctx : Context} {clause : Text}
    {findings : List Finding} {m : Match}
    (read : ClauseRead d window ctx (Clause.words clause) findings)
    (member : m ∈ findings.filterMap Finding.match?) : d.isOfKeyword m = false := by
  rw [isOfKeyword_eq_false]
  intro opening declared
  have proper : ∀ w ∈ Clause.words clause, Clause.IsClauseWord w :=
    fun _ => Clause.isClauseWord_of_mem_words
  generalize Clause.words clause = words at read proper
  cases read with
  | empty => simp at member
  | captured nonempty captured made =>
    obtain ⟨found, inFindings, isMatch⟩ := List.mem_filterMap.1 member
    rw [List.mem_singleton.1 inFindings, made] at isMatch
    obtain ⟨-, category, -⟩ := Finding.match?_ofPhrase isMatch
    obtain ⟨capture, inCaptures, tagged, -⟩ := capture?_eq_some captured
    rw [category, ← tagged]
    exact (shown.noCapture opening declared capture inCaptures).symm
  | byWords read =>
    rintro same
    rcases justified_of_wordsRead shown.built proper read member with ⟨-, number, -⟩ | ⟨-, found⟩
    · exact shown.noNumber opening declared (same ▸ number)
    · have listed : d.vocabulary.categories.has opening.2 = true := by
        rw [same]
        rcases found with found | ⟨_, _, _, -, -, found⟩
        · exact Vocabulary.has_categories_of_lookup found
        · exact Vocabulary.has_categories_of_lookup found
      rw [shown.notInTables opening declared] at listed
      exact Bool.noConfusion listed

/-- Every keyword is a match, with the keyword for its phrase. -/
theorem map_found_of_openings {openings : List (Text × Category)}
    (declared : ∀ opening ∈ openings, opening ∈ d.openings) :
    (((openings.map fun opening => Finding.ofPhrase opening.1 opening.2 opening.1).filterMap
      Finding.match?).filter d.isOfKeyword).map
        (fun m => (m.phrase, m.category)) = openings := by
  induction openings with
  | nil => rfl
  | cons opening openings ih =>
    obtain ⟨first, later⟩ := List.forall_mem_cons.1 declared
    obtain ⟨c, made⟩ :=
      Finding.ofPhrase_of_not_blank opening.1 opening.2 (shown.solid opening first)
    obtain ⟨-, category, -⟩ := Finding.match?_ofPhrase (congrArg Finding.match? made)
    have own : d.isOfKeyword ⟨opening.1, c⟩ = true := by
      rw [isOfKeyword, category, List.contains_iff_mem]
      exact List.mem_map_of_mem first
    have isMatch : (Finding.matched ⟨opening.1, c⟩).match? = some ⟨opening.1, c⟩ := rfl
    rw [List.map_cons, made, List.filterMap_cons_some isMatch, List.filter_cons_of_pos own,
      List.map_cons, ih later, category]

/-- The keywords of a text are on record. -/
theorem map_found (options : ParseOptions) (text : Text) :
    ((d.classify options text).trace.found.filter d.isOfKeyword).map
      (fun m => (m.phrase, m.category)) = d.keywordsIn text := by
  have clauses : ((d.readingOf options text).clauses.flatMap fun reading =>
      reading.findings.filterMap Finding.match?).filter d.isOfKeyword = [] := by
    rw [List.filter_eq_nil_iff]
    intro m member
    obtain ⟨reading, inClauses, member⟩ := List.mem_flatMap.1 member
    obtain ⟨own, ctx, read⟩ := clauseRead_of_mem_readingOf options text inClauses
    rw [own] at read
    exact Bool.eq_false_iff.1 (isOfKeyword_of_clauseRead shown read member)
  rw [found_classify, List.filter_append, clauses, List.append_nil]
  exact map_found_of_openings shown fun opening member => mem_openings_of_openingsWithin member

/-- Where runs agree, the same keywords open both texts. -/
theorem keywordsIn_eq_of_agrees {options : ParseOptions}
    (agrees : (d.classify options a).Agrees (d.classify options b)) :
    d.keywordsIn a = d.keywordsIn b := by
  rw [← map_found shown options a, agrees.found_eq, map_found shown options b]

end

end Dialect

namespace Games

/-! ## §5 The built-in games -/

open Text (IsPhrase KeepsSpacing)

theorem isPhrase_openings : ∀ game ∈ builtIn, ∀ opening ∈ game.dialect.openings,
    IsPhrase opening.1 := by
  decide

/-- One keyword of the built-in games has more than one word. -/
theorem isWord_openings : ∀ game ∈ builtIn, ∀ opening ∈ game.dialect.openings,
    Text.IsWord opening.1 ∨ game.dialect.key = ("snap" : Text) ∧
      opening.1 = ("on reveal" : Text) := by
  decide

theorem keywordsShow_snap : Snap.dialect.KeywordsShow where
  built := Snap.built
  solid := by decide
  notInTables := by decide
  noNumber := by decide
  noCapture := by decide

theorem eq_snap_of_key : ∀ game ∈ builtIn, game.dialect.key = ("snap" : Text) →
    game.dialect = Snap.dialect := by
  simp only [builtIn, List.forall_mem_cons]
  refine ⟨?_, ?_, ?_, ?_, ?_, ?_, ?_, fun _ => rfl, by simp⟩ <;>
    exact fun key => absurd key (by decide)

theorem keepsKeywords {game : Game} (member : game ∈ builtIn) {t : Text}
    (keeps : game.dialect.key = ("snap" : Text) → KeepsSpacing "on reveal" t) :
    game.dialect.KeepsKeywords t := by
  intro opening declared
  rcases isWord_openings game member opening declared with isWord | ⟨snap, phrase⟩
  · exact Text.keepsSpacing_of_isWord isWord t
  · rw [phrase]
    exact keeps snap

/-- **The layout of a text makes a difference to keywords only.** In every built-in game, the runs
of two texts with the same words make the same chain of the same matches, with the same words
dropped, the same number of words and the same shortcut, exactly where the same keywords open both
texts. So they always do but in one game, where a keyword has two words; and there they do where
both texts write that keyword with a single space. -/
theorem agrees_iff_keywordsIn_eq : ∀ game ∈ builtIn, ∀ (options : ParseOptions) (a b : Text),
    Text.words a = Text.words b →
      let d := game.dialect
      ((d.classify options a).Agrees (d.classify options b) ↔ d.keywordsIn a = d.keywordsIn b) ∧
      ((d.key = ("snap" : Text) → KeepsSpacing "on reveal" (Text.lower (Text.trim a)) ∧
          KeepsSpacing "on reveal" (Text.lower (Text.trim b))) →
        (d.classify options a).Agrees (d.classify options b)) := by
  intro game member options a b same d
  have phrases := isPhrase_openings game member
  have agrees := Dialect.agrees_of_keywordsIn_eq phrases same options
  have keywords (keeps : d.key = ("snap" : Text) →
      KeepsSpacing "on reveal" (Text.lower (Text.trim a)) ∧
        KeepsSpacing "on reveal" (Text.lower (Text.trim b))) : d.keywordsIn a = d.keywordsIn b :=
    Dialect.keywordsIn_eq phrases same (keepsKeywords member fun snap => (keeps snap).1)
      (keepsKeywords member fun snap => (keeps snap).2)
  refine ⟨⟨fun agree => ?_, agrees⟩, fun keeps => agrees (keywords keeps)⟩
  by_cases snap : d.key = ("snap" : Text)
  · have shown : d.KeywordsShow := by
      rw [show d = Snap.dialect from eq_snap_of_key game member snap]
      exact keywordsShow_snap
    exact Dialect.keywordsIn_eq_of_agrees shown agree
  · exact keywords fun isSnap => absurd isSnap snap

/-- Line ends, tabs and more spaces make no difference where the keyword keeps its space. -/
theorem agrees_iff_keywordsIn_eq_onReveal :
    let d := Snap.game.dialect
    let a : Text := "On Reveal: Add 2 power here, then draw a card."
    let b : Text := "\tOn Reveal:\nAdd  2 power\there,\nthen draw\n a card.\n"
    Text.words a = Text.words b ∧ (d.classify {} a).Agrees (d.classify {} b) ∧
      (d.classify {} b).trace.shortcut = some ("on reveal" : Text) := by
  dsimp only
  have same : Text.words "On Reveal: Add 2 power here, then draw a card." =
      Text.words "\tOn Reveal:\nAdd  2 power\there,\nthen draw\n a card.\n" := by
    decide +kernel
  refine ⟨same, ?_, by decide +kernel⟩
  exact (agrees_iff_keywordsIn_eq Snap.game (by simp [builtIn]) {} _ _ same).2 fun _ =>
    ⟨by decide +kernel, by decide +kernel⟩

/-- A second space inside the keyword hides it. -/
theorem not_agrees_of_spaced_keyword :
    ¬∀ game ∈ builtIn, ∀ (options : ParseOptions) (a b : Text), Text.words a = Text.words b →
      (game.dialect.classify options a).Agrees (game.dialect.classify options b) := by
  intro agrees
  have shortcuts := (agrees Snap.game (by simp [builtIn]) {} "On reveal: add 2 power here"
    "On  reveal: add 2 power here" (by decide +kernel)).shortcut_eq
  exact absurd shortcuts (by decide +kernel)

end Games

end AbilityText

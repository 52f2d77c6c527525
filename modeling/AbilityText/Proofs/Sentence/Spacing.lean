/-
AbilityText.Proofs.Sentence.Spacing — a sentence in two layouts.

Signs and single words are the same in every layout of a sentence, and so are colons. Three things
that rules look for letter by letter are not: the keywords of two words, which they know with a
single space only; a condition, which no line end may break off; and a quality, of which blanks
alone can pass for one before an ending. In a `PlainLayout` none of them comes up. There every rule
finds fragments with the same words as in the squeezed sentence (`map_reading_squeeze`), and of
fragments only the words count (`chainOf_congr`).
-/
import AbilityText.Proofs.Clause.Spacing
import AbilityText.Proofs.Sentence.Fragments
import AbilityText.Proofs.Sentence.Signals

namespace AbilityText

namespace Sentence

open Text (squeeze opensSpaced IsWord IsPhrase KeepsSpacing)

/-! ## §1 Signs -/

theorem wordsOf_squeeze (t : Text) : wordsOf (squeeze t) = wordsOf t := by
  rw [wordsOf, wordsOf, Text.words_squeeze]

/-- A sentence shows the same signs in every layout. -/
theorem shows_squeeze (t : Text) (sign : Signal) :
    (ofText (squeeze t)).shows sign = (ofText t).shows sign := by
  have mentions : (ofText (squeeze t)).mentions = (ofText t).mentions := by
    funext word
    rw [mentions, mentions, ofText, ofText, wordsOf_squeeze]
  cases sign with
  | colon =>
    rw [Bool.eq_iff_iff, shows, shows, List.contains_iff_mem, List.contains_iff_mem]
    exact Text.mem_squeeze_iff (by decide)
  | openingTrigger => rw [shows, shows, ofText, ofText, Text.words_squeeze]
  | insteadWord => rw [shows, shows, mentions]
  | ifWord => rw [shows, shows, mentions]
  | thenWord => rw [shows, shows, mentions]
  | staticVerb => rw [shows, shows, mentions]
  | keyword => rw [shows, shows, mentions]

/-! ## §2 Fragments -/

/-- The categories of fragments with the words of their texts. -/
def outline (fragments : List Fragment) : List (Category × List Text) :=
  fragments.map fun fragment => (fragment.1, Text.words fragment.2)

/-- Whether a text is empty, and its words. -/
def content (t : Text) : Bool × List Text := (t.isEmpty, Text.words t)

theorem content_trim_squeeze (t : Text) :
    content (Text.trim (squeeze t)) = content (Text.trim t) := by
  have empty : (Text.trim (squeeze t)).isEmpty = (Text.trim t).isEmpty := by
    rw [Bool.eq_iff_iff, List.isEmpty_iff, List.isEmpty_iff, Text.trim_eq_nil_iff,
      Text.trim_eq_nil_iff, Text.words_squeeze]
  rw [content, content, empty, Text.words_trim, Text.words_trim, Text.words_squeeze]

/-- The components that fragments make are those of their words. -/
theorem filterMap_component? (fragments : List Fragment) : fragments.filterMap component? =
    (outline fragments).filterMap fun entry => component? (entry.1, Text.unwords entry.2) := by
  rw [outline, List.filterMap_map]
  refine List.filterMap_congr fun fragment _ => ?_
  have normal : Text.normalize fragment.2 =
      Text.normalize (Text.unwords (Text.words fragment.2)) := by
    rw [Text.normalize, Text.normalize, Text.words_unwords_words]
  exact congrArg Except.toOption (Component.new_congr fragment.1 normal)

/-- The chain of fragments depends on their words alone. -/
theorem chainOf_congr {fragments others : List Fragment}
    (same : outline fragments = outline others) : chainOf fragments = chainOf others := by
  rw [chainOf_eq_ofList, chainOf_eq_ofList, filterMap_component?, same, ← filterMap_component?]

/-- The words that the lexicon knows are the same in every layout. -/
theorem plainFragments_squeeze (lexicon : Lexicon) (t : Text) :
    plainFragments lexicon (ofText (squeeze t)) = plainFragments lexicon (ofText t) := by
  rw [plainFragments, plainFragments, ofText, ofText, Clause.words_congr (Text.words_squeeze t)]

/-! ## §3 What rules look for letter by letter -/

open SentenceRule (quality? endsQuality opensWithThen conditionOf? afterTrigger? aroundColon?
  protectionFrom?)

theorem opensWithThen_squeeze (t : Text) : opensWithThen (squeeze t) = opensWithThen t := by
  rw [opensWithThen, opensWithThen, Clause.afterThen?_squeeze]
  cases (Clause.afterSpace? t).bind (Text.after? "then") with
  | none => rfl
  | some rest => simp

theorem isWord_triggerWords : ∀ word ∈ triggerWords, IsWord word :=
  fun word member => (isPlainWord_iff.1 (isPlainWord_triggerWords word member)).1

theorem afterTrigger?_squeeze (t : Text) :
    afterTrigger? (squeeze t) = (afterTrigger? t).map squeeze := by
  rw [← Option.map_id' (x := afterTrigger? (squeeze t))]
  refine Text.map_findSome?_congr fun word member => ?_
  rw [Option.map_id', Text.after?_squeeze_of_isWord (isWord_triggerWords word member)]
  cases Text.after? word t with
  | none => rfl
  | some rest => exact Clause.afterSpace?_squeeze rest

theorem opensWithThen_of_not_opensSpaced {t : Text} (h : opensSpaced t = false) :
    opensWithThen t = false := by
  cases t with
  | nil => rfl
  | cons c t =>
    rw [Text.opensSpaced_cons] at h
    simp [opensWithThen, Clause.afterSpace?, h]

theorem conditionOf?_of_opensWithThen {t : Text} (h : opensWithThen t = true) :
    conditionOf? t = some [] := by
  cases t with
  | nil => rfl
  | cons c t => simp [conditionOf?, h]

/-- A condition ends where it starts, or has the first character of the text, which is no line end.
-/
theorem conditionOf?_cons {c : Char} {t condition : Text}
    (h : conditionOf? (c :: t) = some condition) :
    (c = ',' ∨ opensWithThen (c :: t) = true) ∧ condition = [] ∨
      c ≠ ',' ∧ opensWithThen (c :: t) = false ∧ c ≠ '\n' ∧
        ∃ rest, conditionOf? t = some rest ∧ condition = c :: rest := by
  rw [conditionOf?] at h
  split at h
  · next ends => exact .inl ⟨by simpa using ends, (Option.some.inj h).symm⟩
  · next goesOn =>
    simp only [Bool.or_eq_true, decide_eq_true_eq, not_or, Bool.not_eq_true] at goesOn
    split at h
    · exact absurd h (by simp)
    · next sameLine =>
      obtain ⟨rest, found, rfl⟩ := Option.map_eq_some_iff.1 h
      exact .inr ⟨goesOn.1, goesOn.2, sameLine, rest, found, rfl⟩

theorem conditionOf?_of_goesOn {c : Char} {t rest : Text} (comma : c ≠ ',')
    (goesOn : opensWithThen (c :: t) = false) (sameLine : c ≠ '\n')
    (found : conditionOf? t = some rest) : conditionOf? (c :: t) = some (c :: rest) := by
  simp [conditionOf?, comma, goesOn, sameLine, found]

/-- Where no "then" ends it, a condition opens with white space if the text does. -/
theorem opensSpaced_conditionOf? {t condition : Text} (goesOn : opensWithThen t = false)
    (h : conditionOf? t = some condition) : opensSpaced condition = opensSpaced t := by
  cases t with
  | nil =>
    obtain rfl : [] = condition := by simpa [conditionOf?] using h
    rfl
  | cons c t =>
    rcases conditionOf?_cons h with ⟨rfl | ends, rfl⟩ | ⟨-, -, -, rest, -, rfl⟩
    · rw [Text.opensSpaced_cons]
      decide
    · rw [goesOn] at ends
      exact Bool.noConfusion ends
    · rfl

/-- A condition that no line end breaks off is found in the squeezed text. -/
theorem conditionOf?_squeeze {t condition : Text} (h : conditionOf? t = some condition) :
    conditionOf? (squeeze t) = some (squeeze condition) := by
  have comma {c : Char} (space : Text.isSpace c = true) : c ≠ ',' :=
    Text.ne_of_isSpace space (by decide)
  induction t using Text.squeeze_induction generalizing condition with
  | nil =>
    obtain rfl : [] = condition := by simpa [conditionOf?] using h
    rfl
  | gap c rest space spaced ih =>
    rw [Text.squeeze_cons_of_opensSpaced space spaced]
    have opens : opensWithThen (c :: rest) = opensWithThen rest := by
      rw [opensWithThen, opensWithThen, Clause.afterSpace?_cons_of_opensSpaced space spaced]
    rcases conditionOf?_cons h with ⟨ends, rfl⟩ | ⟨-, goesOn, -, behind, found, rfl⟩
    · exact ih (conditionOf?_of_opensWithThen (opens ▸ ends.resolve_left (comma space)))
    · have again := (opensSpaced_conditionOf? (opens ▸ goesOn) found).trans spaced
      rw [ih found, Text.squeeze_cons_of_opensSpaced space again]
  | space c rest space solid ih =>
    have opens := opensWithThen_squeeze (c :: rest)
    rw [Text.squeeze_cons_space space solid] at opens ⊢
    rcases conditionOf?_cons h with ⟨ends, rfl⟩ | ⟨-, goesOn, -, behind, found, rfl⟩
    · exact conditionOf?_of_opensWithThen (opens.trans (ends.resolve_left (comma space)))
    · have first := opensSpaced_conditionOf? (opensWithThen_of_not_opensSpaced solid) found
      rw [conditionOf?_of_goesOn (by decide) (opens.trans goesOn) (by decide) (ih found),
        Text.squeeze_cons_space space (first.trans solid)]
  | solid c rest solid ih =>
    have opens : ∀ t, opensWithThen (c :: t) = false :=
      fun t => opensWithThen_of_not_opensSpaced (t := c :: t) solid
    rw [Text.squeeze_cons_solid solid]
    rcases conditionOf?_cons h with ⟨ends, rfl⟩ | ⟨goesOn, -, sameLine, behind, found, rfl⟩
    · have isComma : c = ',' := ends.resolve_right (by simp [opens])
      simp [conditionOf?, isComma, squeeze]
    · rw [conditionOf?_of_goesOn goesOn (opens _) sameLine (ih found),
        Text.squeeze_cons_solid solid]

theorem aroundColon?_squeeze (t : Text) : aroundColon? (squeeze t) =
    (aroundColon? t).map fun cut => (squeeze cut.1, squeeze cut.2) := by
  have empty : ∀ part : Text, (squeeze part).isEmpty = part.isEmpty := fun part => by
    rw [Bool.eq_iff_iff, List.isEmpty_iff, List.isEmpty_iff, Text.squeeze_eq_nil_iff]
  have colon : ∀ part : Text, (squeeze part).contains ':' = part.contains ':' := fun part => by
    rw [Bool.eq_iff_iff, List.contains_iff_mem, List.contains_iff_mem,
      Text.mem_squeeze_iff (by decide)]
  rw [aroundColon?, aroundColon?, Text.cutFirst?_squeeze (by decide)]
  cases Text.cutFirst? ':' t with
  | none => rfl
  | some cut =>
    rw [Option.map_some, Option.filter_some, Option.filter_some, empty, empty, colon]
    split <;> rfl

theorem quality?_cons_space {c : Char} (h : Text.isSpace c = true) (t : Text) :
    quality? (c :: t) =
      let body := (t.dropWhile Text.isSpace).takeWhile fun e => !endsQuality e
      if body.isEmpty && (t.takeWhile Text.isSpace).isEmpty then none
      else some (Text.trim body) := by
  have single : ((t.takeWhile Text.isSpace).length + 1 < 2) ↔
      (t.takeWhile Text.isSpace).isEmpty = true := by
    rw [List.isEmpty_iff_length_eq_zero]
    omega
  simp [quality?, h, single]

theorem isSpace_of_endsQuality {c : Char} (h : endsQuality c = true) : Text.isSpace c = false := by
  simp only [endsQuality, Bool.or_eq_true, decide_eq_true_eq] at h
  rcases h with (rfl | rfl) | rfl <;> decide

theorem not_endsQuality_of_isSpace (c : Char) (h : Text.isSpace c = true) :
    (!endsQuality c) = true := by
  rw [Bool.not_eq_true']
  by_contra ends
  rw [isSpace_of_endsQuality (by simpa using ends)] at h
  exact Bool.noConfusion h

/-- Where no quality follows white space, an ending does. -/
theorem exists_ending {c : Char} {t : Text} (space : Text.isSpace c = true)
    (last : ∀ e ∈ (c :: t).getLast?, Text.isSpace e = false)
    (none : ((t.dropWhile Text.isSpace).takeWhile fun e => !endsQuality e) = []) :
    ∃ e more, t.dropWhile Text.isSpace = e :: more ∧ endsQuality e = true := by
  cases rest : t.dropWhile Text.isSpace with
  | nil =>
    have blank : ∀ e ∈ c :: t, Text.isSpace e = true :=
      List.forall_mem_cons.2 ⟨space, List.dropWhile_eq_nil_iff.1 rest⟩
    have ends := List.getLast?_eq_some_getLast (List.cons_ne_nil c t)
    exact absurd (blank _ (List.getLast_mem _)) (Bool.eq_false_iff.1 (last _ ends))
  | cons e more =>
    refine ⟨e, more, rfl, ?_⟩
    by_contra goesOn
    simp [rest, goesOn] at none

/-- The quality has the same content, unless more than one space stands before an ending. -/
theorem quality?_squeeze {t : Text} (last : ∀ c ∈ t.getLast?, Text.isSpace c = false)
    (single : ∀ c, endsQuality c = true → [' ', c] <+: squeeze t → [' ', c] <+: t) :
    (quality? (squeeze t)).map content = (quality? t).map content := by
  cases t with
  | nil => rfl
  | cons c t =>
    cases space : Text.isSpace c with
    | false =>
      rw [Text.squeeze_cons_solid space]
      simp [quality?, space]
    | true =>
      have solid := Text.opensSpaced_dropWhile_isSpace t
      have gap :=
        Text.takeWhile_isSpace_of_not_opensSpaced ((Text.opensSpaced_squeeze _).trans solid)
      rw [Text.squeeze_cons_of_isSpace space] at single ⊢
      rw [quality?_cons_space Text.isSpace_space, quality?_cons_space space,
        Text.dropWhile_isSpace_squeeze, Text.dropWhile_isSpace_of_not_opensSpaced solid, gap,
        Text.takeWhile_squeeze_of_isSpace not_endsQuality_of_isSpace]
      cases body : (t.dropWhile Text.isSpace).takeWhile fun e => !endsQuality e with
      | cons e more =>
        have nonempty : (squeeze (e :: more)).isEmpty = false := by
          rw [List.isEmpty_eq_false_iff, ne_eq, Text.squeeze_eq_nil_iff]
          simp
        simp [nonempty, content_trim_squeeze]
      | nil =>
        -- An ending follows the white space, so one space is all there is.
        obtain ⟨e, more, rest, ends⟩ := exists_ending space last body
        rw [rest, Text.squeeze_cons_solid (isSpace_of_endsQuality ends)] at single
        have opens := (List.cons_prefix_cons.1 (single e ends ⟨squeeze more, rfl⟩)).2
        obtain ⟨behind, rfl⟩ := opens
        simp [squeeze, isSpace_of_endsQuality ends]

/-- What follows "protection from", when a text opens with it, as a quality. -/
def qualityHere? (t : Text) : Option Text := (Text.after? "protection from" t).bind quality?

theorem protectionFrom?_eq_searchFrom (inWord : Bool) (t : Text) :
    protectionFrom? inWord t = Text.searchFrom qualityHere? inWord t := by
  induction t generalizing inWord with
  | nil => rfl
  | cons c t ih =>
    rw [protectionFrom?, Text.searchFrom, ih]
    cases inWord with
    | true => rfl
    | false =>
      rw [if_neg (by decide), if_neg (by decide), qualityHere?]
      cases (Text.after? "protection from" (c :: t)).bind quality? <;> rfl

/-! ## §4 Layouts that rules read alike -/

/-- What rules look for letter by letter with a space in it: the keywords of two words, and
"protection from" before an ending. -/
def spacedPhrases : List Text :=
  ["first strike", "double strike", "protection from", "protection from .", "protection from ,",
   "protection from ;"]

/-- Spacing makes no difference to the rules: the phrases that they look for letter by letter are
written with single spaces, and no line ends inside the condition of a trigger. -/
structure PlainLayout (t : Text) : Prop where
  keeps : ∀ phrase ∈ spacedPhrases, KeepsSpacing phrase t
  oneLine : ∀ rest ∈ afterTrigger? t, (conditionOf? rest).isSome = true

theorem isPhrase_spacedPhrases : ∀ phrase ∈ spacedPhrases, IsPhrase phrase := by decide

theorem spacedPhrases_of_endsQuality {c : Char} (h : endsQuality c = true) :
    ("protection from" : Text) ++ [' ', c] ∈ spacedPhrases := by
  simp only [endsQuality, Bool.or_eq_true, decide_eq_true_eq] at h
  rcases h with (rfl | rfl) | rfl <;> decide

section
variable {t : Text} (last : ∀ c ∈ t.getLast?, Text.isSpace c = false) (plain : PlainLayout t)
include last plain

theorem map_qualityHere?_squeeze {tail : Text} (inText : tail <:+ t) :
    (qualityHere? (squeeze tail)).map content = (qualityHere? tail).map content := by
  have listed : ("protection from" : Text) ∈ spacedPhrases := by decide
  have phrase := isPhrase_spacedPhrases _ listed
  rw [qualityHere?, qualityHere?, Text.after?_squeeze phrase
    ((plain.keeps _ listed).of_suffix inText)]
  cases found : Text.after? "protection from" tail with
  | none => rfl
  | some rest =>
    have same := Text.after?_eq_some found
    have inTail : rest <:+ t := List.IsSuffix.trans ⟨_, same.symm⟩ inText
    refine quality?_squeeze (fun c ends => last c (Text.mem_getLast?_of_suffix inTail c ends)) ?_
    intro c ends opens
    have whole : ("protection from" : Text) ++ [' ', c] <+: squeeze tail := by
      rw [same, Text.squeeze_append phrase.trimmed.2, phrase.squeezed]
      exact (List.prefix_append_right_inj _).2 opens
    have kept := plain.keeps _ (spacedPhrases_of_endsQuality ends) tail inText whole
    rw [same] at kept
    exact (List.prefix_append_right_inj _).1 kept

theorem map_protectionFrom?_squeeze : (protectionFrom? false (squeeze t)).map content =
    (protectionFrom? false t).map content := by
  rw [protectionFrom?_eq_searchFrom, protectionFrom?_eq_searchFrom]
  refine Text.map_searchFrom_squeeze ?_ (fun tail => map_qualityHere?_squeeze last plain) false
  intro c rest space
  rw [qualityHere?, Text.after?_cons_space (isPhrase_spacedPhrases _ (by decide)) space]
  rfl

end

/-- Where two texts have the same content, a rule that declines the empty text makes fragments with
the same words of them. -/
theorem map_filter_congr {found other : Option Text} {make : Text → List Fragment}
    (same : found.map content = other.map content)
    (alike : ∀ a b, Text.words a = Text.words b → outline (make a) = outline (make b)) :
    ((found.filter fun part => !part.isEmpty).map make).map outline =
      ((other.filter fun part => !part.isEmpty).map make).map outline := by
  cases found with
  | none =>
    rw [Option.map_none, eq_comm, Option.map_eq_none_iff] at same
    rw [same]
  | some a =>
    rw [Option.map_some, eq_comm, Option.map_eq_some_iff] at same
    obtain ⟨b, rfl, equal⟩ := same
    obtain ⟨empty, words⟩ := Prod.mk.inj equal
    rw [Option.filter_some, Option.filter_some, empty]
    split
    · exact congrArg some (alike a b words.symm)
    · rfl

theorem outline_cons (category : Category) (part : Text) (fragments : List Fragment) :
    outline ((category, part) :: fragments) =
      (category, Text.words part) :: outline fragments := rfl

section
variable {lexicon : Lexicon} {t : Text}

theorem reading_keyword_squeeze {word : Text} (listed : word ∈ keywordWords)
    (fragments : List Fragment) (t : Text) :
    (SentenceRule.keyword word fragments).reading lexicon (ofText (squeeze t)) =
      (SentenceRule.keyword word fragments).reading lexicon (ofText t) := by
  have isWord := (isPlainWord_iff.1 (isPlainWord_signWords word (List.mem_cons_of_mem _ listed))).1
  simp only [SentenceRule.keyword, ofText, Text.hasWhole_squeeze isWord]

theorem reading_replacement_squeeze (t : Text) :
    SentenceRule.replacement.reading lexicon (ofText (squeeze t)) =
      SentenceRule.replacement.reading lexicon (ofText t) := by
  have isWord := (isPlainWord_iff.1 (isPlainWord_signWords "instead" List.mem_cons_self)).1
  simp only [SentenceRule.replacement, ofText, Text.hasWhole_squeeze isWord]

theorem reading_strike_squeeze (plain : PlainLayout t) :
    SentenceRule.strike.reading lexicon (ofText (squeeze t)) =
      SentenceRule.strike.reading lexicon (ofText t) := by
  have listed : ∀ phrase ∈ (["first strike", "double strike"] : List Text),
      phrase ∈ spacedPhrases := by
    decide
  have same := Text.findWhole?_squeeze (t := t)
    (fun phrase member => isPhrase_spacedPhrases phrase (listed phrase member))
    (fun phrase member => plain.keeps phrase (listed phrase member))
  simp only [SentenceRule.strike, ofText, same]

theorem reading_protection_squeeze (last : ∀ c ∈ t.getLast?, Text.isSpace c = false)
    (plain : PlainLayout t) :
    (SentenceRule.protection.reading lexicon (ofText (squeeze t))).map outline =
      (SentenceRule.protection.reading lexicon (ofText t)).map outline := by
  refine map_filter_congr (map_protectionFrom?_squeeze last plain) fun a b words => ?_
  simp only [outline_cons, words]

theorem reading_triggered_squeeze (plain : PlainLayout t) :
    (SentenceRule.triggered.reading lexicon (ofText (squeeze t))).map outline =
      (SentenceRule.triggered.reading lexicon (ofText t)).map outline := by
  refine map_filter_congr ?_ fun a b words => by simp only [outline_cons, words]
  rw [ofText, ofText, afterTrigger?_squeeze]
  cases opens : afterTrigger? t with
  | none => rfl
  | some rest =>
    obtain ⟨condition, found⟩ := Option.isSome_iff_exists.1 (plain.oneLine rest opens)
    simp [found, conditionOf?_squeeze found, content_trim_squeeze]

theorem reading_activated_squeeze (t : Text) :
    (SentenceRule.activated.reading lexicon (ofText (squeeze t))).map outline =
      (SentenceRule.activated.reading lexicon (ofText t)).map outline := by
  simp only [SentenceRule.activated, ofText, aroundColon?_squeeze]
  cases aroundColon? t with
  | none => rfl
  | some cut =>
    obtain ⟨empty, words⟩ := Prod.mk.inj (content_trim_squeeze cut.1)
    rw [Option.map_some, Option.bind_eq_bind, Option.bind_some, Option.bind_eq_bind,
      Option.bind_some, Text.words_squeeze]
    cases ((Text.words cut.2).map (Text.trimOf fun c => !Text.isAlphanumeric c)).find?
      lexicon.isEffect with
    | none => rfl
    | some effect =>
      dsimp only [Option.bind_some]
      rw [empty]
      split
      · rfl
      · simp only [Option.map_some, outline_cons, words]

end

/-- **Every rule reads a sentence in a plain layout as it reads the squeezed sentence.** -/
theorem map_reading_squeeze (lexicon : Lexicon) {t : Text}
    (last : ∀ c ∈ t.getLast?, Text.isSpace c = false) (plain : PlainLayout t) :
    ∀ rule ∈ SentenceRule.all, (rule.reading lexicon (ofText (squeeze t))).map outline =
      (rule.reading lexicon (ofText t)).map outline := by
  have shows (sign : Signal) := shows_squeeze t sign
  simp only [SentenceRule.all, List.forall_mem_cons]
  refine ⟨congrArg _ (reading_keyword_squeeze (by decide) _ t),
    congrArg _ (reading_keyword_squeeze (by decide) _ t),
    congrArg _ (reading_keyword_squeeze (by decide) _ t),
    congrArg _ (reading_strike_squeeze plain),
    congrArg _ (reading_keyword_squeeze (by decide) _ t),
    congrArg _ (reading_keyword_squeeze (by decide) _ t),
    congrArg _ (reading_keyword_squeeze (by decide) _ t),
    reading_protection_squeeze last plain,
    reading_triggered_squeeze plain,
    reading_activated_squeeze t,
    by simp only [SentenceRule.static, shows],
    congrArg _ (reading_replacement_squeeze t),
    by simp only [SentenceRule.stateBased, shows],
    fun _ member => absurd member List.not_mem_nil⟩

/-! ## §5 Sentences in two layouts -/

/-- The kind and the chain that rules come to depend on the words of the fragments. -/
theorem conclude_congr {lexicon : Lexicon} {s s' : Sentence}
    (plain : plainFragments lexicon s = plainFragments lexicon s')
    {found other : Option (SentenceKind × List Fragment)}
    (same : found.map (Prod.map id outline) = other.map (Prod.map id outline)) :
    conclude lexicon s found = conclude lexicon s' other := by
  cases found with
  | none =>
    rw [Option.map_none, eq_comm, Option.map_eq_none_iff] at same
    rw [same, conclude, conclude, plain]
  | some result =>
    rw [Option.map_some, eq_comm, Option.map_eq_some_iff] at same
    obtain ⟨⟨kind, fragments⟩, rfl, equal⟩ := same
    obtain ⟨kinds, words⟩ := Prod.mk.inj equal
    rw [conclude, conclude, chainOf_congr words, show kind = result.1 from kinds]

section
variable (lexicon : Lexicon) {text : Text} (plain : PlainLayout (Text.lower (Text.trim text)))
include plain

theorem map_fragmentsBy?_squeeze : ∀ rule ∈ SentenceRule.all,
    ((ofText (Text.normalize text)).fragmentsBy? lexicon rule).map (Prod.map id outline) =
      ((lowered text).fragmentsBy? lexicon rule).map (Prod.map id outline) := by
  intro rule member
  have last := (Text.isTrimmed_lower (Text.isTrimmed_trim text)).2
  have reading := map_reading_squeeze lexicon last plain rule member
  have shows := funext (shows_squeeze (Text.lower (Text.trim text)))
  rw [Text.squeeze_lower_trim] at reading shows
  have tagged : ∀ s : Sentence, ((rule.reading lexicon s).map fun fragments =>
      (rule.kind, fragments)).map (Prod.map id outline) =
        ((rule.reading lexicon s).map outline).map fun words => (rule.kind, words) := by
    intro s
    rw [Option.map_map, Option.map_map]
    rfl
  rw [fragmentsBy?, fragmentsBy?, lowered, shows, apply_ite (Option.map _),
    apply_ite (Option.map _), tagged, tagged, reading]

/-- A sentence in a plain layout comes to the same as its normal form. -/
theorem analyse_eq_of_plainLayout : analyse lexicon text =
    let s := ofText (Text.normalize text)
    if s.text.isEmpty then (.plain, .empty)
    else conclude lexicon s (SentenceRule.all.findSome? (s.fragmentsBy? lexicon)) := by
  have empty : (lowered text).text.isEmpty = (Text.normalize text).isEmpty := by
    rw [Bool.eq_iff_iff, List.isEmpty_iff, List.isEmpty_iff, ← Text.squeeze_lower_trim,
      Text.squeeze_eq_nil_iff]
    rfl
  have words : plainFragments lexicon (lowered text) =
      plainFragments lexicon (ofText (Text.normalize text)) := by
    rw [← Text.squeeze_lower_trim, plainFragments_squeeze]
    rfl
  have found := Text.map_findSome?_congr (map_fragmentsBy?_squeeze lexicon plain)
  rw [analyse_eq, conclude_congr words found.symm, empty]
  rfl

end

/-- **The layout of a sentence makes no difference** where both layouts are plain: two sentences
with the same words are of the same kind and have the same chain, whatever the lexicon. -/
theorem analyse_eq_of_words_eq (lexicon : Lexicon) {a b : Text}
    (same : Text.words a = Text.words b) (plainA : PlainLayout (Text.lower (Text.trim a)))
    (plainB : PlainLayout (Text.lower (Text.trim b))) : analyse lexicon a = analyse lexicon b := by
  have normal : Text.normalize a = Text.normalize b := by
    rw [Text.normalize, Text.normalize, same]
  rw [analyse_eq_of_plainLayout lexicon plainA, analyse_eq_of_plainLayout lexicon plainB, normal]

/-- Line ends and tabs between words, but not inside a phrase or a condition. -/
theorem analyse_eq_of_words_eq_strike :
    let a : Text := "Whenever it dies, it gains first strike."
    let b : Text := "Whenever  it\tdies,\nit\n gains first strike.\n"
    Text.words a = Text.words b ∧ analyse ⟨[], [], []⟩ a = analyse ⟨[], [], []⟩ b ∧
      (analyse ⟨[], [], []⟩ b).1 = .keyword := by
  dsimp only
  have same : Text.words "Whenever it dies, it gains first strike." =
      Text.words "Whenever  it\tdies,\nit\n gains first strike.\n" := by
    decide +kernel
  refine ⟨same, analyse_eq_of_words_eq _ same ⟨?_, ?_⟩ ⟨?_, ?_⟩, by decide +kernel⟩
  · decide +kernel
  · decide +kernel
  · decide +kernel
  · decide +kernel

/-- Two spaces inside a phrase, a line end inside a condition, and two spaces before an ending: each
makes a plain sentence of what is none. -/
theorem analyse_ne_of_layout :
    (Text.words "First strike" = Text.words "First  strike" ∧
      (analyse ⟨[], [], []⟩ "First strike").1 = .keyword ∧
      (analyse ⟨[], [], []⟩ "First  strike").1 = .plain) ∧
    (Text.words "Whenever it dies, draw" = Text.words "Whenever it\ndies, draw" ∧
      (analyse ⟨[], [], []⟩ "Whenever it dies, draw").1 = .triggered ∧
      (analyse ⟨[], [], []⟩ "Whenever it\ndies, draw").1 = .plain) ∧
    (Text.words "Protection from , protection from red" =
        Text.words "Protection from  , protection from red" ∧
      (analyse ⟨[], [], []⟩ "Protection from , protection from red").1 = .keyword ∧
      (analyse ⟨[], [], []⟩ "Protection from  , protection from red").1 = .plain) := by
  decide +kernel

end Sentence

end AbilityText

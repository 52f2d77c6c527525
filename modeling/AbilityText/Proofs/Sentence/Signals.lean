/-
AbilityText.Proofs.Sentence.Signals — passing over sentence rules by the signs that a sentence
shows.

A rule is tried only on a sentence that shows its signs; `analyseByReading` tries every rule. The
two answer alike exactly where the rule that decides the sentence finds its signs there
(`analyse_eq_iff_shows`). Triggers and colons are never missed, nor is a keyword or "instead" that
stands apart from other words (`shows_of_reading`). But next to a slash, a hyphen or the like a
keyword has a word boundary and is still no word of the sentence: there the rules that would read
the sentence are passed over.
-/
import AbilityText.Proofs.Text.WholeWords
import AbilityText.Sentence.Analysis

namespace AbilityText

namespace Sentence

open Text (IsWord isWordChar)

/-! ## §1 Trying every rule -/

/-- What a rule finds in a sentence, whatever signs the sentence shows. -/
def readingBy? (lexicon : Lexicon) (s : Sentence) (rule : SentenceRule) :
    Option (SentenceKind × List Fragment) :=
  (rule.reading lexicon s).map fun fragments => (rule.kind, fragments)

/-- The sentence that is analysed for a text. -/
def lowered (text : Text) : Sentence := ofText (Text.lower (Text.trim text))

/-- The kind and the chain that follow from what the rules found in a sentence. -/
def conclude (lexicon : Lexicon) (s : Sentence) :
    Option (SentenceKind × List Fragment) → SentenceKind × Chain
  | some (kind, fragments) => (kind, chainOf fragments)
  | none => (.plain, chainOf (plainFragments lexicon s))

/-- The kind and the chain of a sentence when every rule is tried on it. -/
def analyseByReading (lexicon : Lexicon) (text : Text) : SentenceKind × Chain :=
  if (lowered text).text.isEmpty then (.plain, .empty)
  else conclude lexicon (lowered text)
    (SentenceRule.all.findSome? ((lowered text).readingBy? lexicon))

theorem analyse_eq (lexicon : Lexicon) (text : Text) :
    analyse lexicon text =
      if (lowered text).text.isEmpty then (.plain, .empty)
      else conclude lexicon (lowered text)
        (SentenceRule.all.findSome? ((lowered text).fragmentsBy? lexicon)) := rfl

/-- The first rule that reads the sentence. -/
def decidingRule? (lexicon : Lexicon) (s : Sentence) : Option SentenceRule :=
  SentenceRule.all.find? fun rule => (rule.reading lexicon s).isSome

/-- Does the sentence show all signs that the rule asks for? -/
def showsAll (s : Sentence) (rule : SentenceRule) : Bool := rule.signals.all s.shows

section
variable {lexicon : Lexicon} {s : Sentence}

theorem fragmentsBy?_of_shows {rule : SentenceRule} (h : s.showsAll rule = true) :
    s.fragmentsBy? lexicon rule = s.readingBy? lexicon rule := if_pos h

theorem fragmentsBy?_of_not_shows {rule : SentenceRule} (h : s.showsAll rule = false) :
    s.fragmentsBy? lexicon rule = none := if_neg (Bool.eq_false_iff.1 h)

/-- Passing over rules changes nothing while the first rule that reads the sentence is tried. -/
theorem findSome?_fragmentsBy? : ∀ {rules : List SentenceRule},
    (∀ rule ∈ rules.find? fun rule => (rule.reading lexicon s).isSome, s.showsAll rule = true) →
    rules.findSome? (s.fragmentsBy? lexicon) = rules.findSome? (s.readingBy? lexicon)
  | [], _ => rfl
  | rule :: rules, h => by
    rw [List.findSome?_cons, List.findSome?_cons]
    cases reads : rule.reading lexicon s with
    | some fragments =>
      have tried : s.showsAll rule = true := h rule (by simp [reads])
      rw [fragmentsBy?_of_shows tried, readingBy?, reads]
      rfl
    | none =>
      have nothing : s.fragmentsBy? lexicon rule = none := by
        cases tried : s.showsAll rule with
        | true => rw [fragmentsBy?_of_shows tried, readingBy?, reads]; rfl
        | false => exact fragmentsBy?_of_not_shows tried
      rw [nothing, readingBy?, reads]
      exact findSome?_fragmentsBy? fun other found => h other (by simpa [reads] using found)

theorem findSome?_readingBy? (rules : List SentenceRule) :
    rules.findSome? (s.readingBy? lexicon) =
      (rules.find? fun rule => (rule.reading lexicon s).isSome).bind (s.readingBy? lexicon) := by
  induction rules with
  | nil => rfl
  | cons rule rules ih =>
    rw [List.findSome?_cons, List.find?_cons]
    cases reads : rule.reading lexicon s with
    | some fragments => simp [readingBy?, reads]
    | none => simp [readingBy?, reads, ih]

/-! ## §2 Where the first rule that reads the sentence is passed over -/

/-- Rules of one kind ask for the same signs. -/
theorem signals_eq_of_kind_eq : ∀ a ∈ SentenceRule.all, ∀ b ∈ SentenceRule.all,
    a.kind = b.kind → a.signals = b.signals := by
  decide

/-- No rule takes a sentence for a plain one. -/
theorem kind_ne_plain : ∀ rule ∈ SentenceRule.all, rule.kind ≠ .plain := by decide

/-- Where the sentence does not show the signs of a rule, its kind is not found by trying. -/
theorem kind_conclude_ne {rule : SentenceRule} (member : rule ∈ SentenceRule.all)
    (hidden : s.showsAll rule = false) :
    (conclude lexicon s (SentenceRule.all.findSome? (s.fragmentsBy? lexicon))).1 ≠ rule.kind := by
  intro same
  cases found : SentenceRule.all.findSome? (s.fragmentsBy? lexicon) with
  | none =>
    rw [found] at same
    exact kind_ne_plain rule member same.symm
  | some result =>
    rw [found] at same
    obtain ⟨other, memberOther, tried⟩ := List.exists_of_findSome?_eq_some found
    unfold fragmentsBy? at tried
    split at tried
    · next shown =>
      obtain ⟨fragments, -, rfl⟩ := Option.map_eq_some_iff.1 tried
      have signals := signals_eq_of_kind_eq other memberOther rule member same
      rw [signals] at shown
      rw [showsAll, shown] at hidden
      exact Bool.noConfusion hidden
    · simp at tried

theorem kind_conclude_readingBy? {rule : SentenceRule} (h : decidingRule? lexicon s = some rule) :
    (conclude lexicon s (SentenceRule.all.findSome? (s.readingBy? lexicon))).1 = rule.kind := by
  have reads : (rule.reading lexicon s).isSome := by simpa using List.find?_some h
  obtain ⟨fragments, reads⟩ := Option.isSome_iff_exists.1 reads
  have found : SentenceRule.all.findSome? (s.readingBy? lexicon) = some (rule.kind, fragments) := by
    rw [findSome?_readingBy?, ← decidingRule?, h, Option.bind_some, readingBy?, reads]
    rfl
  rw [found]
  rfl

end

/-! ## §3 The signs of a rule that reads the sentence -/

/-- The words that a rule can find inside a longer word. -/
def signWords : List Text := "instead" :: keywordWords

/-- No keyword, and no "instead", stands between word boundaries inside a longer word. -/
def SignsApart (s : Sentence) : Prop :=
  ∀ w ∈ s.words, ∀ sign ∈ signWords, Text.hasWhole sign w = true → w = sign

instance (s : Sentence) : Decidable (SignsApart s) :=
  inferInstanceAs (Decidable
    (∀ w ∈ s.words, ∀ sign ∈ signWords, Text.hasWhole sign w = true → w = sign))

/-- Is it a word of letters and numbers? -/
def isPlainWord (w : Text) : Bool :=
  !w.isEmpty && w.all fun c => !Text.isSpace c && Text.isAlphanumeric c

theorem isPlainWord_iff {w : Text} :
    isPlainWord w = true ↔ IsWord w ∧ ∀ c ∈ w, Text.isAlphanumeric c = true := by
  simp [isPlainWord, IsWord, forall_and, and_assoc]

theorem isPlainWord_signWords : ∀ w ∈ signWords, isPlainWord w = true := by decide

theorem isPlainWord_triggerWords : ∀ w ∈ triggerWords, isPlainWord w = true := by decide

/-- Where signs stand apart, one that stands whole in the text is a word of the sentence. -/
theorem mentions_of_whole {t before w after : Text} (apart : SignsApart (ofText t))
    (same : t = before ++ (w ++ after)) (listed : w ∈ signWords)
    (left : Text.endsInWord false before = false) (right : Text.atWordEnd after = true) :
    (ofText t).mentions w = true := by
  obtain ⟨isWord, letters⟩ := isPlainWord_iff.1 (isPlainWord_signWords w listed)
  obtain ⟨outerLeft, outerRight, member, suffix, initial⟩ :=
    Text.exists_mem_words_around before after isWord
  let drops : Char → Bool := fun c => !Text.isAlphanumeric c && c != '\x27'
  have kept : ∀ c ∈ w, drops c = false := fun c hc => by simp [drops, letters c hc]
  have trimmed := Text.trimOf_append_append isWord.1 kept outerLeft outerRight
  have inWords : outerLeft.dropWhile drops ++ (w ++ Text.trimEndOf drops outerRight) ∈
      (ofText t).words := by
    refine List.mem_filter.2 ⟨List.mem_map.2 ⟨_, same ▸ member, trimmed⟩, ?_⟩
    simp [isWord.1]
  -- The word that trimming leaves has the sign between its old word boundaries.
  have stands : Text.StandsWhole w
      (outerLeft.dropWhile drops ++ (w ++ Text.trimEndOf drops outerRight)) :=
    ⟨_, _, rfl, Text.endsInWord_of_suffix ((List.dropWhile_suffix drops).trans suffix) left,
      Text.atWordEnd_of_initial ((Text.trimEndOf_initial drops outerRight).trans initial) right⟩
  rw [apart _ inWords w listed (Text.hasWhole_of_standsWhole isWord.1 stands)] at inWords
  simpa [mentions] using inWords

theorem mentions_of_hasWhole {t w : Text} (apart : SignsApart (ofText t)) (listed : w ∈ signWords)
    (h : Text.hasWhole w t = true) : (ofText t).mentions w = true := by
  obtain ⟨before, after, same, left, right⟩ := Text.standsWhole_of_hasWhole h
  exact mentions_of_whole apart same listed left right

theorem showsAll_of_signals_eq {s : Sentence} {rule : SentenceRule} {sign : Signal}
    (only : rule.signals = [sign]) (shown : s.shows sign = true) : s.showsAll rule = true := by
  rw [showsAll, only, List.all_cons, shown]
  rfl

theorem shows_keyword {s : Sentence} {w : Text} (listed : w ∈ keywordWords)
    (h : s.mentions w = true) : s.shows .keyword = true := List.any_eq_true.2 ⟨w, listed, h⟩

section
variable {lexicon : Lexicon} {t : Text}

theorem shows_of_keyword (apart : SignsApart (ofText t)) {word : Text}
    (listed : word ∈ keywordWords) (fragments : List Fragment)
    (h : ((SentenceRule.keyword word fragments).reading lexicon (ofText t)).isSome = true) :
    (ofText t).showsAll (SentenceRule.keyword word fragments) = true := by
  simp only [SentenceRule.keyword, ofText] at h
  split at h
  · next whole =>
    have found := mentions_of_hasWhole apart (List.mem_cons_of_mem _ listed) whole
    exact showsAll_of_signals_eq rfl (shows_keyword listed found)
  · simp at h

theorem shows_of_strike (apart : SignsApart (ofText t))
    (h : (SentenceRule.strike.reading lexicon (ofText t)).isSome = true) :
    (ofText t).showsAll SentenceRule.strike = true := by
  have listed : ("strike" : Text) ∈ keywordWords := by decide
  simp only [SentenceRule.strike, Option.isSome_map, ofText] at h
  obtain ⟨phrase, search⟩ := Option.isSome_iff_exists.1 h
  obtain ⟨member, before, after, same, -, right⟩ := Text.standsWhole_of_findWhole? search
  -- Both phrases end with a space and the word.
  have phrases : ∀ phrase ∈ (["first strike", "double strike"] : List Text),
      ∃ opening ∈ (["first", "double"] : List Text), phrase = opening ++ ' ' :: "strike" := by
    decide
  obtain ⟨opening, -, rfl⟩ := phrases phrase member
  have split : t = (before ++ opening ++ [' ']) ++ (("strike" : Text) ++ after) := by
    rw [same]
    simp
  have found := mentions_of_whole apart split (List.mem_cons_of_mem _ listed)
    (by rw [Text.endsInWord_concat]; decide) right
  exact showsAll_of_signals_eq rfl (shows_keyword listed found)

theorem protectionFrom?_eq_some {quality : Text} : ∀ {t : Text} {inWord : Bool},
    SentenceRule.protectionFrom? inWord t = some quality →
      ∃ before after, t = before ++ ("protection from" ++ after) ∧
        Text.endsInWord inWord before = false
  | [], inWord, h => by simp [SentenceRule.protectionFrom?] at h
  | c :: rest, inWord, h => by
    rw [SentenceRule.protectionFrom?] at h
    split at h
    · next here =>
      cases inWord with
      | true => simp at here
      | false =>
        rw [if_neg (by decide)] at here
        obtain ⟨after, cut, -⟩ := Option.bind_eq_some_iff.1 here
        have same := Text.after?_eq_some cut
        exact ⟨[], after, same, rfl⟩
    · obtain ⟨before, after, same, outside⟩ := protectionFrom?_eq_some h
      exact ⟨c :: before, after, by rw [same, List.cons_append],
        by rw [Text.endsInWord_cons, outside]⟩

theorem shows_of_protection (apart : SignsApart (ofText t))
    (h : (SentenceRule.protection.reading lexicon (ofText t)).isSome = true) :
    (ofText t).showsAll SentenceRule.protection = true := by
  have listed : ("protection" : Text) ∈ keywordWords := by decide
  simp only [SentenceRule.protection, Option.isSome_map, ofText] at h
  obtain ⟨quality, search⟩ := Option.isSome_iff_exists.1 h
  obtain ⟨before, after, same, left⟩ :=
    protectionFrom?_eq_some (Option.filter_eq_some_iff.1 search).1
  have opens : ("protection from" : Text) = "protection" ++ ' ' :: ("from" : Text) := by decide
  have split : t = before ++ (("protection" : Text) ++ ' ' :: (("from" : Text) ++ after)) := by
    rw [same, opens, List.append_assoc, List.cons_append]
  have found := mentions_of_whole apart split (List.mem_cons_of_mem _ listed) left
    (Text.atWordEnd_space _)
  exact showsAll_of_signals_eq rfl (shows_keyword listed found)

/-- A trigger word is followed by white space, so it is the first word of the sentence. -/
theorem shows_of_triggered
    (h : (SentenceRule.triggered.reading lexicon (ofText t)).isSome = true) :
    (ofText t).showsAll SentenceRule.triggered = true := by
  simp only [SentenceRule.triggered, Option.isSome_map, ofText] at h
  obtain ⟨condition, reads⟩ := Option.isSome_iff_exists.1 h
  obtain ⟨raw, reads, -⟩ := Option.map_eq_some_iff.1 (Option.filter_eq_some_iff.1 reads).1
  obtain ⟨after, opens, -⟩ := Option.bind_eq_some_iff.1 reads
  obtain ⟨word, listed, cut⟩ := List.exists_of_findSome?_eq_some opens
  obtain ⟨rest, cut, spaced⟩ := Option.bind_eq_some_iff.1 cut
  have first : (Text.words t).head? = some word := by
    cases rest with
    | nil => simp [Clause.afterSpace?] at spaced
    | cons c rest =>
      have space : Text.isSpace c = true := by
        by_cases space : Text.isSpace c = true
        · exact space
        · simp [Clause.afterSpace?, space] at spaced
      rw [Text.after?_eq_some cut, Text.words_append_space space,
          Text.words_of_isWord (isPlainWord_iff.1 (isPlainWord_triggerWords word listed)).1]
      rfl
  have shown : (ofText t).shows .openingTrigger = true := by
    rw [shows, ofText, first]
    exact List.contains_iff_mem.2 listed
  exact showsAll_of_signals_eq rfl shown

/-- What has something before and after a colon has a colon. -/
theorem shows_of_activated
    (h : (SentenceRule.activated.reading lexicon (ofText t)).isSome = true) :
    (ofText t).showsAll SentenceRule.activated = true := by
  obtain ⟨fragments, reads⟩ := Option.isSome_iff_exists.1 h
  obtain ⟨⟨before, after⟩, around, -⟩ := Option.bind_eq_some_iff.1 reads
  have cut := Text.cutFirst?_eq_some (Option.filter_eq_some_iff.1 around).1
  have colon : ':' ∈ t := by
    rw [show t = before ++ ':' :: after from cut]
    simp
  have shown : (ofText t).shows .colon = true := List.contains_iff_mem.2 colon
  exact showsAll_of_signals_eq rfl shown

theorem shows_of_replacement (apart : SignsApart (ofText t))
    (h : (SentenceRule.replacement.reading lexicon (ofText t)).isSome = true) :
    (ofText t).showsAll SentenceRule.replacement = true := by
  simp only [SentenceRule.replacement, ofText] at h
  split at h
  · next whole =>
    have found := mentions_of_hasWhole apart List.mem_cons_self whole
    exact showsAll_of_signals_eq rfl found
  · simp at h

end

/-- **A sentence shows the signs of every rule that reads it**, if its signs stand apart. Only
keywords and "instead" can be missed, so only their rules ask for that. -/
theorem shows_of_reading {lexicon : Lexicon} {t : Text} : ∀ rule ∈ SentenceRule.all,
    (rule.kind = .keyword ∨ rule.kind = .replacement → SignsApart (ofText t)) →
      (rule.reading lexicon (ofText t)).isSome = true → (ofText t).showsAll rule = true := by
  simp only [SentenceRule.all, List.forall_mem_cons]
  refine ⟨fun apart => shows_of_keyword (apart (.inl rfl)) (by decide) _,
    fun apart => shows_of_keyword (apart (.inl rfl)) (by decide) _,
    fun apart => shows_of_keyword (apart (.inl rfl)) (by decide) _,
    fun apart => shows_of_strike (apart (.inl rfl)),
    fun apart => shows_of_keyword (apart (.inl rfl)) (by decide) _,
    fun apart => shows_of_keyword (apart (.inl rfl)) (by decide) _,
    fun apart => shows_of_keyword (apart (.inl rfl)) (by decide) _,
    fun apart => shows_of_protection (apart (.inl rfl)),
    fun _ => shows_of_triggered,
    fun _ => shows_of_activated,
    fun _ _ => rfl,
    fun apart => shows_of_replacement (apart (.inr rfl)),
    fun _ _ => rfl,
    fun _ member => absurd member List.not_mem_nil⟩

/-! ## §4 When passing over rules changes nothing -/

theorem signsApart_of_empty {s : Sentence} (h : s = ofText []) : SignsApart s := by
  subst h
  intro w hw
  exact absurd hw List.not_mem_nil

section
variable {lexicon : Lexicon} {text : Text}

theorem reading_of_decidingRule? {rule : SentenceRule}
    (h : decidingRule? lexicon (lowered text) = some rule) :
    rule ∈ SentenceRule.all ∧
      (rule.reading lexicon (ofText (Text.lower (Text.trim text)))).isSome = true :=
  have reads := List.find?_some h
  ⟨List.mem_of_find?_eq_some h, reads⟩

theorem analyse_eq_iff_shows : analyse lexicon text = analyseByReading lexicon text ↔
    ∀ rule, decidingRule? lexicon (lowered text) = some rule →
      (lowered text).showsAll rule = true := by
  rw [analyse_eq, analyseByReading]
  cases empty : (lowered text).text.isEmpty with
  | true =>
    have nothing : Text.lower (Text.trim text) = [] := List.isEmpty_iff.1 empty
    have apart := signsApart_of_empty (congrArg ofText nothing)
    refine iff_of_true rfl fun rule decides => ?_
    obtain ⟨member, reads⟩ := reading_of_decidingRule? decides
    exact shows_of_reading rule member (fun _ => apart) reads
  | false =>
    rw [if_neg (by decide), if_neg (by decide)]
    constructor
    · intro same rule decides
      cases tried : (lowered text).showsAll rule with
      | true => rfl
      | false =>
        have member := (reading_of_decidingRule? decides).1
        exact absurd (same ▸ kind_conclude_readingBy? decides) (kind_conclude_ne member tried)
    · intro shown
      rw [findSome?_fragmentsBy? shown]

end

/-- **Passing over rules by the signs of the sentence changes nothing exactly where the first rule
that reads the sentence finds its signs there.** So it does where that rule is for no keyword and no
replacement, and wherever keywords and "instead" stand apart. -/
theorem analyse_eq_analyseByReading_iff (lexicon : Lexicon) (text : Text) :
    (analyse lexicon text = analyseByReading lexicon text ↔
      ∀ rule, decidingRule? lexicon (lowered text) = some rule →
        (lowered text).showsAll rule = true) ∧
    ((∀ rule, decidingRule? lexicon (lowered text) = some rule →
        rule.kind = .keyword ∨ rule.kind = .replacement → SignsApart (lowered text)) →
      analyse lexicon text = analyseByReading lexicon text) := by
  refine ⟨analyse_eq_iff_shows, fun apart => analyse_eq_iff_shows.2 fun rule decides => ?_⟩
  obtain ⟨member, reads⟩ := reading_of_decidingRule? decides
  exact shows_of_reading rule member (apart rule decides) reads

/-- An apostrophe leaves a keyword apart, and so does a comma. -/
theorem analyse_eq_analyseByReading_of_comma :
    SignsApart (lowered "It can't have Flying, reach") ∧
      analyse ⟨[], [], []⟩ "It can't have Flying, reach" =
        analyseByReading ⟨[], [], []⟩ "It can't have Flying, reach" := by
  have apart : SignsApart (lowered "It can't have Flying, reach") := by decide
  exact ⟨apart, (analyse_eq_analyseByReading_iff _ _).2 fun _ _ _ => apart⟩

/-- Beside a slash, a keyword has its word boundary and is no word of the sentence: the rule that
reads the sentence is passed over. -/
theorem not_analyse_eq_analyseByReading_of_slash :
    ¬ ∀ lexicon text, analyse lexicon text = analyseByReading lexicon text := by
  intro same
  have kinds := congrArg Prod.fst (same ⟨[], [], []⟩ "flying/reach")
  exact absurd kinds (by decide)

end Sentence

end AbilityText

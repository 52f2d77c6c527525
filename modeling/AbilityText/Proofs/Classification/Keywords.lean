/-
AbilityText.Proofs.Classification.Keywords — keywords before colons are read one after another, and
leave nothing behind.

A keyword with white space and a colon behind it is taken off a text, and the rest is read as if it
stood alone (`readingOf_before`). That takes three things of a dialect (`KeywordsApart`): no keyword
opens another, so the right one is found; no keyword is an effect; and there is no gating, so what a
type among the keywords adds to the context is never asked for. What is asked for is the last effect
(`claimsAlike_of_effect`).
-/
import AbilityText.Proofs.Classification.Agreement
import AbilityText.Proofs.Classification.Alike
import AbilityText.Proofs.Classification.Ungated

namespace AbilityText.Dialect

variable {d : Dialect} {options : ParseOptions}

/-! ## §1 Contexts with the same effect -/

theorem effect_after_matched (ctx : Context) (m : Match) : (ctx.after (.matched m)).effect =
    if m.category = .effect then some m.text else ctx.effect := by
  simp only [Context.after]
  split
  · next effect => rw [if_pos effect]
  · next type => rw [if_neg (by rw [type]; decide)]
  · next other _ => rw [if_neg other]

theorem effect_after {ctx ctx' : Context} (same : ctx.effect = ctx'.effect) (finding : Finding) :
    (ctx.after finding).effect = (ctx'.after finding).effect := by
  cases finding with
  | matched m => rw [effect_after_matched, effect_after_matched, same]
  | silent phrase => exact same
  | dropped word => exact same

/-- What is no effect leaves the last effect as it is. -/
theorem effect_after_ofPhrase {ctx : Context} {phrase text : Text} {category : Category}
    (h : category ≠ .effect) :
    (ctx.after (.ofPhrase phrase category text)).effect = ctx.effect := by
  unfold Finding.ofPhrase
  split
  · next c made =>
    have own : (⟨phrase, c⟩ : Match).category = category := (Component.new_eq_ok made).1
    rw [effect_after_matched, own, if_neg h]
  · rfl

/-- Without gating, a context decides by its effect alone. -/
theorem claimsAlike_of_effect (ungated : d.gating = none) (window : Nat) :
    d.ClaimsAlike window window fun ctx ctx' => ctx.effect = ctx'.effect where
  bestClaim?_eq := by
    intro ctx ctx' same previous words _
    have table : ∀ category, d.tableClaim? window ctx category words =
        d.tableClaim? window ctx' category words :=
      fun _ => longestPhrase?_congr ungated ctx ctx' _ _
    have step : d.stepClaim? window ctx words = d.stepClaim? window ctx' words := by
      funext step
      cases step with
      | table category => exact table category
      | number => simp only [stepClaim?, numberClaim?, same]
    simp only [bestClaim?, table, step]
  after := effect_after

/-! ## §2 One keyword -/

/-- A keyword of the dialect as it opens a text: white space and a colon stand behind it. -/
structure Opening (d : Dialect) where
  keyword : Text
  category : Category
  gap : Text
  declared : (keyword, category) ∈ d.openings
  blank : Text.isBlank gap = true

/-- The text that a keyword opens. -/
def Opening.before (opening : Opening d) (rest : Text) : Text :=
  opening.keyword ++ (opening.gap ++ ':' :: rest)

/-- The keywords of a dialect can be told apart, and mean nothing to what follows them. -/
structure KeywordsApart (d : Dialect) : Prop where
  ungated : d.gating = none
  normal : ∀ opening ∈ d.openings, Text.normalize opening.1 = opening.1 ∧ opening.1 ≠ []
  noEffect : ∀ opening ∈ d.openings, opening.2 ≠ .effect
  noPrefix : ∀ opening ∈ d.openings, ∀ other ∈ d.openings, opening.1 <+: other.1 → opening = other

section
variable (apart : d.KeywordsApart) (opening : Opening d) (rest : Text)
include apart

/-- The keyword is found, and the text behind its colon. -/
theorem opening?_before : d.opening? (opening.before rest) =
    some (opening.keyword, opening.category, Text.trim rest) := by
  have blank : ∀ c ∈ opening.gap, Text.isSpace c = true := List.all_eq_true.1 opening.blank
  have start : Text.trimStart (opening.gap ++ ':' :: rest) = ':' :: rest :=
    List.dropWhile_append_of_pos blank
  have own : ((Text.after? opening.keyword (opening.before rest)).bind fun rest =>
      Text.after? ":" (Text.trimStart rest)) = some rest := by
    rw [Opening.before, Text.after?_append, Option.bind_some, start]
    exact Text.after?_append ":" rest
  cases found : d.opening? (opening.before rest) with
  | none =>
    have missing := List.findSome?_eq_none_iff.1 found _ opening.declared
    rw [own] at missing
    simp at missing
  | some result =>
    obtain ⟨other, member, opens⟩ := List.exists_of_findSome?_eq_some found
    obtain ⟨body, colon, rfl⟩ := Option.map_eq_some_iff.1 opens
    -- Of two keywords that open one text, one opens the other.
    obtain ⟨behind, keyed, -⟩ := Option.bind_eq_some_iff.1 colon
    have first : other.1 <+: opening.before rest := ⟨behind, (Text.after?_eq_some keyed).symm⟩
    have second : opening.keyword <+: opening.before rest := List.prefix_append _ _
    obtain rfl : other = (opening.keyword, opening.category) := by
      rcases List.prefix_or_prefix_of_prefix first second with shorter | shorter
      · exact apart.noPrefix other member _ opening.declared shorter
      · exact (apart.noPrefix _ opening.declared other member shorter).symm
    rw [own] at colon
    rw [Option.some.inj colon]

theorem lower_before {rest : Text} (lowerRest : Text.lower rest = rest) :
    Text.lower (opening.before rest) = opening.before rest := by
  apply Text.lower_of_settled
  intro c member
  simp only [Opening.before, List.mem_append, List.mem_cons] at member
  rcases member with inKeyword | inGap | rfl | inRest
  · exact Text.settled_of_isNormal (apart.normal _ opening.declared).1 c inKeyword
  · exact Text.settled_of_isSpace (List.all_eq_true.1 opening.blank c inGap)
  · exact Text.settled_of_no_image (by decide) (by decide)
  · exact Text.settled_of_lower_eq lowerRest c inRest

/-- Nothing stands before the keyword, so only the rest is trimmed. -/
theorem trim_before : Text.trim (opening.before rest) = opening.before (Text.trimEnd rest) := by
  obtain ⟨normal, nonempty⟩ := apart.normal _ opening.declared
  have first : ∀ c ∈ (opening.keyword ++ opening.gap).head?, Text.isSpace c = false := by
    rw [List.head?_append_of_ne_nil _ nonempty]
    exact Text.isSpace_head?_of_isNormal normal
  have ends := Text.trimOf_append_cons_of_head (c := ':') (by decide) first rest
  simpa [Opening.before, Text.trim, Text.trimEnd] using ends

/-- The keyword comes first, and the keywords of the rest follow. -/
theorem openingsOf_before : d.openingsOf (opening.before rest) =
    ((opening.keyword, opening.category) :: (d.openingsOf (Text.trim rest)).1,
      (d.openingsOf (Text.trim rest)).2) := by
  obtain ⟨n, length⟩ : ∃ n, (opening.before rest).length = n + 1 := by
    refine ⟨opening.keyword.length + (opening.gap.length + rest.length), ?_⟩
    simp only [Opening.before, List.length_append, List.length_cons]
    omega
  have colons : (Text.trim rest).count ':' ≤ n := by
    have counted := count_colon_of_opening? (opening?_before apart opening rest)
    have bound : (opening.before rest).count ':' ≤ n + 1 := length ▸ List.count_le_length
    omega
  rw [openingsOf, length, openingsWithin, opening?_before apart opening rest]
  simp only [openingsOf, openingsWithin_eq_of_count_le colons List.count_le_length]

/-- **A keyword is read, and then the rest as if it stood alone.** -/
theorem readingOf_before (options : ParseOptions) (lowerRest : Text.lower rest = rest) :
    d.readingOf options (opening.before rest) =
      ⟨(opening.keyword, .ofPhrase opening.keyword opening.category opening.keyword) ::
          (d.readingOf options rest).keywords, (d.readingOf options rest).clauses⟩ := by
  have body : Text.trim (Text.trimEnd rest) = Text.trim rest := Text.trimOf_trimEndOf _ rest
  have lowered : Text.lower (Text.trim rest) = Text.trim rest :=
    Text.lower_of_sublist lowerRest (Text.trimOf_sublist _ rest)
  have loweredEnd : Text.lower (Text.trimEnd rest) = Text.trimEnd rest :=
    Text.lower_of_sublist lowerRest (Text.trimEndOf_sublist _ rest)
  rw [readingOf, readingOf, trim_before apart, lower_before apart opening loweredEnd, lowered]
  simp only [read, openingsOf_before apart opening, body, List.map_cons]
  have alike := claimsAlike_of_effect apart.ungated (d.windowFor options)
  have noEffect : opening.category ≠ .effect := apart.noEffect _ opening.declared
  exact congrArg (Reading.mk _)
    (alike.readClauses_eq (alike.afterAll (effect_after_ofPhrase noEffect) _) _)

end

/-! ## §3 Records -/

/-- What a run reads is what some matches say, and then what another run reads. -/
structure ReadsFirst (found : List Match) (whole behind : Run) : Prop where
  found_eq : whole.trace.found = found ++ behind.trace.found
  clauses_eq : whole.trace.clauses = behind.trace.clauses
  tokens_eq : whole.trace.tokens = behind.trace.tokens
  dropped_eq : whole.trace.dropped = behind.trace.dropped
  shortcut_eq : whole.trace.shortcut = (found.head?.map Match.phrase).or behind.trace.shortcut

theorem ReadsFirst.refl (run : Run) : ReadsFirst [] run run := ⟨rfl, rfl, rfl, rfl, rfl⟩

theorem ReadsFirst.cons {m : Match} {found : List Match} {whole later behind : Run}
    (first : ReadsFirst [m] whole later) (rest : ReadsFirst found later behind) :
    ReadsFirst (m :: found) whole behind where
  found_eq := by rw [first.found_eq, rest.found_eq, List.singleton_append, List.cons_append]
  clauses_eq := first.clauses_eq.trans rest.clauses_eq
  tokens_eq := first.tokens_eq.trans rest.tokens_eq
  dropped_eq := first.dropped_eq.trans rest.dropped_eq
  shortcut_eq := first.shortcut_eq

/-- With a minimum of one component at most, no chain is discarded. -/
theorem chain_classify_of_minimum_le {options : ParseOptions} (h : d.minimumFor options ≤ 1)
    (text : Text) : (d.classify options text).chain = (d.readingOf options text).chain := by
  rw [classify_of_not_isUndersized]
  rintro ⟨some, few⟩
  have := List.length_pos_iff.2 some
  omega

section
variable (apart : d.KeywordsApart) (opening : Opening d)
include apart

/-- A keyword is a match that stands for itself. -/
theorem exists_match_of_opening : ∃ m : Match,
    Finding.ofPhrase opening.keyword opening.category opening.keyword = .matched m ∧
      (m.phrase, m.category, m.text) = (opening.keyword, opening.category, opening.keyword) := by
  obtain ⟨normal, nonempty⟩ := apart.normal _ opening.declared
  have solid : Text.isBlank opening.keyword = false := by
    rw [← Bool.not_eq_true, ← Text.normalize_eq_nil_iff, normal]
    exact nonempty
  obtain ⟨c, made⟩ := Finding.ofPhrase_of_not_blank opening.keyword opening.category solid
  obtain ⟨-, category, text⟩ := Finding.match?_ofPhrase (congrArg Finding.match? made)
  refine ⟨_, made, ?_⟩
  rw [category, text, normal]

variable {rest : Text} (lowerRest : Text.lower rest = rest)
include lowerRest

theorem readsFirst_before (options : ParseOptions) {m : Match}
    (own : Finding.ofPhrase opening.keyword opening.category opening.keyword = .matched m) :
    ReadsFirst [m] (d.classify options (opening.before rest)) (d.classify options rest) := by
  have reading := readingOf_before apart opening rest options lowerRest
  rw [own] at reading
  constructor
  · rw [found_eq_found_readingOf, found_eq_found_readingOf, reading]
    rfl
  · rw [clauses_classify, clauses_classify, reading]
  · rw [tokens_classify, tokens_classify, reading]
  · rw [dropped_eq_dropped_readingOf, dropped_eq_dropped_readingOf, reading]
    rfl
  · have phrase : m.phrase = opening.keyword :=
      (Finding.match?_ofPhrase (congrArg Finding.match? own)).1
    rw [shortcut_classify, reading, List.head?_cons, List.head?_cons, Option.map_some,
      Option.map_some, Option.some_or, phrase]

/-- The component of the keyword comes before those of the rest. -/
theorem chain_before (minimum : d.minimumFor options ≤ 1) {m : Match}
    (own : Finding.ofPhrase opening.keyword opening.category opening.keyword = .matched m) :
    (d.classify options (opening.before rest)).chain =
      (Chain.ofList [m.component]).merge (d.classify options rest).chain := by
  have found := (readsFirst_before apart opening lowerRest options own).found_eq
  rw [found_eq_found_readingOf, found_eq_found_readingOf] at found
  rw [chain_classify_of_minimum_le minimum, chain_classify_of_minimum_le minimum, Reading.chain,
    found, List.singleton_append, List.map_cons, Chain.ofList_cons]
  rfl

end

/-! ## §4 Any number of keywords -/

theorem exists_readsFirst_foldr (apart : d.KeywordsApart) (options : ParseOptions) {rest : Text}
    (lowerRest : Text.lower rest = rest) (openings : List (Opening d)) :
    Text.lower (openings.foldr Opening.before rest) = openings.foldr Opening.before rest ∧
    ∃ found : List Match,
      found.map (fun m => (m.phrase, m.category, m.text)) =
        openings.map (fun opening => (opening.keyword, opening.category, opening.keyword)) ∧
      ReadsFirst found (d.classify options (openings.foldr Opening.before rest))
        (d.classify options rest) ∧
      (d.minimumFor options ≤ 1 →
        (d.classify options (openings.foldr Opening.before rest)).chain =
          found.foldr (fun m chain => (Chain.ofList [m.component]).merge chain)
            (d.classify options rest).chain) := by
  induction openings with
  | nil => exact ⟨lowerRest, [], rfl, .refl _, fun _ => rfl⟩
  | cons opening openings ih =>
    obtain ⟨lowerLater, found, phrases, reads, chain⟩ := ih
    obtain ⟨m, own, phrase⟩ := exists_match_of_opening apart opening
    refine ⟨lower_before apart opening lowerLater, m :: found, ?_, ?_, fun minimum => ?_⟩
    · rw [List.map_cons, List.map_cons, phrase, phrases]
    · exact (readsFirst_before apart opening lowerLater options own).cons reads
    · rw [List.foldr_cons, List.foldr_cons, chain_before apart opening lowerLater minimum own,
        chain minimum]

end AbilityText.Dialect

namespace AbilityText.Games

/-! ## §5 The games with keywords -/

open Dialect (Opening ReadsFirst)

/-- The built-in games in which keywords open a text. -/
def withKeywords : List Game := [Hearthstone.game, Pokemon.game, Snap.game]

theorem keywordsApart : ∀ game ∈ withKeywords, game.dialect.KeywordsApart := by
  have ungated : ∀ game ∈ withKeywords, game.dialect.gating = none := by decide
  have normal : ∀ game ∈ withKeywords, ∀ opening ∈ game.dialect.openings,
      Text.normalize opening.1 = opening.1 ∧ opening.1 ≠ [] := by decide +kernel
  have noEffect : ∀ game ∈ withKeywords, ∀ opening ∈ game.dialect.openings,
      opening.2 ≠ .effect := by decide
  have noPrefix : ∀ game ∈ withKeywords, ∀ opening ∈ game.dialect.openings,
      ∀ other ∈ game.dialect.openings, opening.1 <+: other.1 → opening = other := by
    decide
  exact fun game member =>
    ⟨ungated game member, normal game member, noEffect game member, noPrefix game member⟩

/-- **Keywords before colons are read one after another.** In the games that have such keywords, let
any number of them open a text in lower case, each with any white space before its colon. The run of
the whole has a match for each, with the keyword itself for its text, and then what the rest has on
its own; nothing else of the record changes but the shortcut, which is the first keyword. With a
minimum of one component at most, the chain unites the components of the keywords, in order, with
the chain of the rest. -/
theorem keywords_compose : ∀ game ∈ withKeywords, ∀ (options : ParseOptions)
    (openings : List (Opening game.dialect)) (rest : Text), Text.lower rest = rest →
      let d := game.dialect
      let whole := d.classify options (openings.foldr Opening.before rest)
      let behind := d.classify options rest
      ∃ found : List Match,
        found.map (fun m => (m.phrase, m.category, m.text)) =
          openings.map (fun opening => (opening.keyword, opening.category, opening.keyword)) ∧
        ReadsFirst found whole behind ∧
        (d.minimumFor options ≤ 1 → whole.chain =
          found.foldr (fun m chain => (Chain.ofList [m.component]).merge chain) behind.chain) := by
  intro game member options openings rest lowerRest
  exact (Dialect.exists_readsFirst_foldr (keywordsApart game member) options lowerRest openings).2

/-- A keyword of two words, with a tab behind it. -/
def onReveal : Opening Snap.game.dialect := ⟨"on reveal", .type, "\t", by decide, by decide⟩

/-- A keyword with nothing between it and its colon. -/
def ongoing : Opening Snap.game.dialect := ⟨"ongoing", .type, [], by decide, by decide⟩

/-- Two keywords open a text with an effect and a number: they come first in the record and in the
chain. -/
theorem keywords_compose_onReveal :
    let d := Snap.game.dialect
    let rest : Text := " add 2 power here."
    let whole := d.classify {} ("on reveal\t:ongoing:" ++ rest)
    let behind := d.classify {} rest
    whole.trace.found.map Match.text =
      (["on reveal", "ongoing", "add", "2", "power", "here"] : List Text) ∧
    whole.trace.shortcut = some ("on reveal" : Text) ∧
    ∃ found : List Match, found.map Match.text = (["on reveal", "ongoing"] : List Text) ∧
      ReadsFirst found whole behind ∧
      whole.chain =
        found.foldr (fun m chain => (Chain.ofList [m.component]).merge chain) behind.chain := by
  dsimp only
  obtain ⟨found, phrases, reads, chain⟩ := keywords_compose Snap.game (by simp [withKeywords]) {}
    [onReveal, ongoing] " add 2 power here." (by decide +kernel)
  have texts := congrArg (List.map fun entry => entry.2.2) phrases
  rw [List.map_map, List.map_map] at texts
  exact ⟨by decide +kernel, by decide +kernel, found, texts, reads, chain (by decide)⟩

end AbilityText.Games

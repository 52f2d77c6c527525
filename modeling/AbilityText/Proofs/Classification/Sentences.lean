/-
AbilityText.Proofs.Classification.Sentences — a further sentence leaves what was read as it is.

The mark between two sentences stands in no keyword and is no colon. So whatever the first text ends
in, the keywords that open the joined text are those that open the first (`openingsOf_append`). The
mark is a break, so the clauses of the second text follow those of the first
(`Clause.ofText_append_break`). Clauses are read in order, and the readings of the first text are
not touched again (`readingOf_append`).

The second text is read in the context that the first leaves. There it can have other matches than
on its own, but without gating only numbers differ.
-/
import AbilityText.Proofs.Classification.Ungated

namespace AbilityText

/-! ## §1 Joined texts -/

namespace Text

variable {a b : Text} {c : Char}

/-- The text does not end in white space. -/
def EndsSolid (t : Text) : Prop := ∀ c ∈ t.getLast?, isSpace c = false

theorem endsSolid_trim (t : Text) : EndsSolid (trim t) := getLast?_trimOf isSpace t

theorem EndsSolid.of_suffix {ending t : Text} (h : t.EndsSolid) (suffix : ending <:+ t) :
    ending.EndsSolid :=
  fun c last => h c (mem_getLast?_of_suffix suffix c last)

theorem trim_append_cons (hc : isSpace c = false) (ha : a.EndsSolid) (hb : b.EndsSolid) :
    trim (a ++ c :: b) = trim a ++ c :: b := trimOf_append_cons hc ha hb

/-- A text in lower case, without white space around it. -/
structure IsTrimmedLower (t : Text) : Prop where
  lower : lower t = t
  trim : trim t = t

theorem IsTrimmedLower.endsSolid (h : a.IsTrimmedLower) : a.EndsSolid := by
  have solid := endsSolid_trim a
  rwa [h.trim] at solid

theorem IsTrimmedLower.append_cons (ha : a.IsTrimmedLower) (hb : b.IsTrimmedLower)
    (settled : Settled c) (hc : isSpace c = false) : IsTrimmedLower (a ++ c :: b) where
  lower := lower_append_cons ha.lower settled hb.lower
  trim := by rw [trim_append_cons hc ha.endsSolid hb.endsSolid, ha.trim]

end Text

namespace Dialect

/-- A mark that ends a sentence: it ends a clause, and it is of no use to a keyword. -/
structure EndsSentence (d : Dialect) (mark : Char) : Prop where
  isBreak : Clause.isBreak mark = true
  notColon : mark ≠ ':'
  notInKeyword : ∀ opening ∈ d.openings, mark ∉ opening.1
  settled : Text.Settled mark

variable {d : Dialect} {options : ParseOptions} {a b : Text} {mark : Char}

/-! ## §2 Keywords of joined texts -/

section
variable (ends : d.EndsSentence mark) (ha : a.EndsSolid) (hb : b.EndsSolid)
include ends ha hb

/-- What stands behind a keyword and its colon stands there in the joined text too. -/
theorem afterColon_append {keyword : Text} (plain : mark ∉ keyword) :
    ((Text.after? keyword (a ++ mark :: b)).bind fun rest =>
        Text.after? ":" (Text.trimStart rest)).map Text.trim =
      (((Text.after? keyword a).bind fun rest =>
        Text.after? ":" (Text.trimStart rest)).map Text.trim).map (· ++ mark :: b) := by
  have solid := Clause.isSpace_of_isBreak ends.isBreak
  rw [Text.after?_append_of_not_mem plain]
  cases keyed : Text.after? keyword a with
  | none => rfl
  | some rest =>
    have start : Text.trimStart (rest ++ mark :: b) = Text.trimStart rest ++ mark :: b :=
      Text.dropWhile_append_cons solid rest b
    simp only [Option.map_some, Option.bind_some]
    rw [start, Text.after?_append_of_not_mem (by simpa using ends.notColon)]
    cases colon : Text.after? ":" (Text.trimStart rest) with
    | none => rfl
    | some body =>
      have inRest : body <:+ Text.trimStart rest := ⟨":", (Text.after?_eq_some colon).symm⟩
      have suffix : body <:+ a := by
        rw [Text.after?_eq_some keyed]
        exact (inRest.trans (List.dropWhile_suffix _)).trans (List.suffix_append _ _)
      simp only [Option.map_some]
      rw [Text.trim_append_cons solid (ha.of_suffix suffix) hb]

/-- The mark completes no keyword, and a keyword takes nothing behind the mark. -/
theorem opening?_append : d.opening? (a ++ mark :: b) =
    (d.opening? a).map fun opening => (opening.1, opening.2.1, opening.2.2 ++ mark :: b) := by
  unfold opening?
  rw [List.map_findSome?, ← List.head?_filterMap, ← List.head?_filterMap]
  refine congrArg List.head? (List.filterMap_congr fun opening member => ?_)
  have body := afterColon_append ends ha hb (ends.notInKeyword opening member)
  have tagged := congrArg (Option.map fun body => (opening.1, opening.2, body)) body
  simpa [Function.comp_def] using tagged

end

theorem endsSolid_of_opening? {t keyword body : Text} {category : Category}
    (h : d.opening? t = some (keyword, category, body)) : body.EndsSolid := by
  obtain ⟨-, rest, after, -, -, rfl⟩ := opening?_inv h
  exact Text.endsSolid_trim after

theorem openingsWithin_append (ends : d.EndsSentence mark) (hb : b.EndsSolid) :
    ∀ (bound larger : Nat) (a : Text), a.count ':' ≤ bound → a.count ':' ≤ larger → a.EndsSolid →
      d.openingsWithin larger (a ++ mark :: b) =
        ((d.openingsWithin bound a).1, (d.openingsWithin bound a).2 ++ mark :: b) := by
  intro bound larger a few fewer ha
  have joined := opening?_append ends ha hb
  cases opens : d.opening? a with
  | none =>
    rw [opens, Option.map_none] at joined
    rw [openingsWithin_of_none joined, openingsWithin_of_none opens]
  | some opening =>
    obtain ⟨keyword, category, body⟩ := opening
    rw [opens, Option.map_some] at joined
    -- The keyword has taken a colon, so neither bound is used up.
    have colons := count_colon_of_opening? opens
    obtain ⟨bound, rfl⟩ : ∃ n, bound = n + 1 := ⟨bound - 1, by omega⟩
    obtain ⟨larger, rfl⟩ : ∃ n, larger = n + 1 := ⟨larger - 1, by omega⟩
    have later := openingsWithin_append ends hb bound larger body (by omega) (by omega)
      (endsSolid_of_opening? opens)
    simp only [openingsWithin, opens, joined, later]

/-- **The keywords that open the joined text are those that open the first.** -/
theorem openingsOf_append (ends : d.EndsSentence mark) (ha : a.EndsSolid) (hb : b.EndsSolid) :
    d.openingsOf (a ++ mark :: b) = ((d.openingsOf a).1, (d.openingsOf a).2 ++ mark :: b) := by
  have fits : a.count ':' ≤ (a ++ mark :: b).length := by
    rw [List.length_append]
    exact Nat.le_add_right_of_le List.count_le_length
  exact openingsWithin_append ends hb _ _ a List.count_le_length fits ha

/-! ## §3 Readings of joined texts -/

theorem readingOf_of_isTrimmedLower {t : Text} (h : t.IsTrimmedLower) :
    d.readingOf options t = d.read (d.windowFor options) t := by
  rw [readingOf, h.trim, h.lower]

/-- A text that opens with no keyword is read clause by clause. -/
theorem readingOf_of_none {t : Text} (h : t.IsTrimmedLower) (plain : d.opening? t = none) :
    d.readingOf options t = ⟨[], d.readClauses (d.windowFor options) {} (Clause.ofText t)⟩ := by
  rw [readingOf_of_isTrimmedLower h, read, openingsOf, openingsWithin_of_none plain]
  rfl

/-- The clauses of a second text, in the context that the first leaves. -/
def readBehind (d : Dialect) (options : ParseOptions) (a b : Text) : List ClauseReading :=
  d.readClauses (d.windowFor options) (Context.afterAll {} (d.readingOf options a).findings)
    (Clause.ofText b)

section
variable (ends : d.EndsSentence mark) (ha : a.IsTrimmedLower) (hb : b.IsTrimmedLower)
include ends ha hb

/-- **The reading of a joined text is that of the first text, with further clauses behind it.** -/
theorem readingOf_append : d.readingOf options (a ++ mark :: b) =
    ⟨(d.readingOf options a).keywords,
      (d.readingOf options a).clauses ++ d.readBehind options a b⟩ := by
  have solid := Clause.isSpace_of_isBreak ends.isBreak
  have joined := ha.append_cons hb ends.settled solid
  rw [readBehind, readingOf_of_isTrimmedLower joined, readingOf_of_isTrimmedLower ha]
  simp only [read, Reading.findings, openingsOf_append ends ha.endsSolid hb.endsSolid,
    Clause.ofText_append_break ends.isBreak, readClauses_append, Context.afterAll_append]

theorem findings_append : (d.readingOf options (a ++ mark :: b)).findings =
    (d.readingOf options a).findings ++
      (d.readBehind options a b).flatMap ClauseReading.findings := by
  simp only [Reading.findings, readingOf_append ends ha hb, List.flatMap_append, List.append_assoc]

/-! ## §4 Records of joined texts -/

theorem found_append : (d.classify options (a ++ mark :: b)).trace.found =
    (d.classify options a).trace.found ++
      ((d.readBehind options a b).flatMap ClauseReading.findings).filterMap Finding.match? := by
  simp only [found_eq_found_readingOf, Reading.found, findings_append ends ha hb,
    List.filterMap_append]

theorem dropped_append : (d.classify options (a ++ mark :: b)).trace.dropped =
    (d.classify options a).trace.dropped ++
      ((d.readBehind options a b).flatMap ClauseReading.findings).filterMap Finding.dropped? := by
  simp only [dropped_eq_dropped_readingOf, findings_append ends ha hb, List.filterMap_append]

theorem clauses_append (plain : d.opening? b = none) :
    (d.classify options (a ++ mark :: b)).trace.clauses =
      (d.classify options a).trace.clauses ++ (d.classify options b).trace.clauses := by
  rw [clauses_classify, clauses_classify, clauses_classify, readingOf_append ends ha hb,
    readingOf_of_none hb plain, List.map_append, readBehind, map_clause_readClauses,
    map_clause_readClauses]

/-- Without gating, the phrases of the second text are those that it has on its own. -/
theorem withoutNumbers_found_append (plain : d.opening? b = none) (ungated : d.gating = none)
    (numbers : d.NoNumberOpensPhrase) :
    d.withoutNumbers (d.classify options (a ++ mark :: b)).trace.found =
      d.withoutNumbers (d.classify options a).trace.found ++
        d.withoutNumbers (d.classify options b).trace.found := by
  rw [found_append ends ha hb, withoutNumbers_append, found_eq_found_readingOf options b,
    readingOf_of_none hb plain]
  exact congrArg _ (samePhrases_readClauses ungated numbers _ _ _)

end

end Dialect

/-! ## §5 The built-in games -/

namespace Games

theorem endsSentence : ∀ game ∈ builtIn, game.dialect.EndsSentence '.' := by
  have notInKeyword : ∀ game ∈ builtIn, ∀ opening ∈ game.dialect.openings, '.' ∉ opening.1 := by
    decide
  have settled : Text.Settled '.' := Text.settled_of_no_image (by decide) (by decide)
  exact fun game member => ⟨by decide, by decide, notInKeyword game member, settled⟩

/-- **A further sentence changes nothing of what was classified.** What a text matches and drops
comes first when a full stop and a second text are joined to it. The clauses of the second text
follow those of the first, unless it opens with a keyword of its own. In the seven games without
gating its matches follow as well, numbers apart: these can need an effect of the first text. -/
theorem classified_kept_by_append :
    builtIn.countP (fun game => game.dialect.gating.isNone) = 7 ∧
    ∀ game ∈ builtIn, ∀ (options : ParseOptions) (a b : Text),
      a.IsTrimmedLower → b.IsTrimmedLower →
        let d := game.dialect
        let first := (d.classify options a).trace
        let second := (d.classify options b).trace
        let joined := (d.classify options (a ++ '.' :: b)).trace
        first.found <+: joined.found ∧ first.dropped <+: joined.dropped ∧
        (d.opening? b = none →
          joined.clauses = first.clauses ++ second.clauses ∧
          (d.gating = none → d.withoutNumbers joined.found =
            d.withoutNumbers first.found ++ d.withoutNumbers second.found)) := by
  refine ⟨by decide, fun game member options a b ha hb => ?_⟩
  have ends := endsSentence game member
  dsimp only
  refine ⟨?_, ?_, fun plain => ⟨?_, fun ungated => ?_⟩⟩
  · rw [Dialect.found_append ends ha hb]
    exact List.prefix_append _ _
  · rw [Dialect.dropped_append ends ha hb]
    exact List.prefix_append _ _
  · exact Dialect.clauses_append ends ha hb plain
  · exact Dialect.withoutNumbers_found_append ends ha hb plain ungated
      (noNumberOpensPhrase game member)

/-- A sentence with an effect that takes a number. -/
def dealText : Text := "battlecry: deal"

/-- A sentence that opens with a number. -/
def damageText : Text := "3 damage to a random minion"

/-- The number of the second text counts behind the effect of the first, and is dropped on its own.
-/
theorem classified_kept_by_append_deal :
    let d := Hearthstone.game.dialect
    let first := (d.classify {} dealText).trace
    let second := (d.classify {} damageText).trace
    let joined := (d.classify {} (dealText ++ '.' :: damageText)).trace
    first.found.map Match.text = (["battlecry", "deal"] : List Text) ∧
    second.found.map Match.text = (["random", "minion"] : List Text) ∧
    joined.found.map Match.text = (["battlecry", "deal", "3", "random", "minion"] : List Text) ∧
    first.found <+: joined.found ∧ first.dropped <+: joined.dropped ∧
    joined.clauses = first.clauses ++ second.clauses ∧
    d.withoutNumbers joined.found =
      d.withoutNumbers first.found ++ d.withoutNumbers second.found := by
  dsimp only
  have dealRead : dealText.IsTrimmedLower := ⟨by decide +kernel, by decide +kernel⟩
  have damageRead : damageText.IsTrimmedLower := ⟨by decide +kernel, by decide +kernel⟩
  obtain ⟨found, dropped, later⟩ := classified_kept_by_append.2 Hearthstone.game
    (by simp [builtIn]) {} dealText damageText dealRead damageRead
  obtain ⟨clauses, phrases⟩ := later (by decide +kernel)
  exact ⟨by decide +kernel, by decide +kernel, by decide +kernel, found, dropped, clauses,
    phrases rfl⟩

end Games

end AbilityText

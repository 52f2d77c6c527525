/-
AbilityText.Proofs.Classification.Context — every match was read knowing the matches before it.

What earlier words mean for later ones is part of the record: the context is made of the matches so
far (`Context.afterAll_of`). So a match on record can be explained by the record in front of it. It
comes from a keyword, from a capture, or from a claim on its words and those behind it, in the
context that the matches before it make (`source_of_found`).

The findings of a clause account for its words in order, which tells where in its clause a match
stands (`Reading.ReadAt`).
-/
import AbilityText.Proofs.Classification.Reading

namespace AbilityText

/-! ## §1 Places in joined lists -/

section
variable {α β : Type}

/-- What stands in two joined lists stands in the first, or at its place in the second. -/
theorem mem_or_of_append_eq {xs ys before behind : List α} {a : α}
    (h : xs ++ ys = before ++ a :: behind) :
    a ∈ xs ∨ ∃ inner, before = xs ++ inner ∧ ys = inner ++ a :: behind := by
  rcases List.append_eq_append_iff.1 h with ⟨inner, first, second⟩ | ⟨inner, first, second⟩
  · exact .inr ⟨inner, first, second⟩
  · cases inner with
    | nil =>
      rw [List.append_nil] at first
      exact .inr ⟨[], by simp [first], by simp [second]⟩
    | cons b inner =>
      obtain ⟨rfl, -⟩ := List.cons.inj second
      exact .inl (by simp [first])

/-- What stands in lists that are joined stands at its place in one of them. -/
theorem exists_of_flatMap_eq {f : α → List β} {b : β} :
    ∀ {xs : List α} {before behind : List β}, xs.flatMap f = before ++ b :: behind →
      ∃ first x last inner rest, xs = first ++ x :: last ∧ before = first.flatMap f ++ inner ∧
        f x = inner ++ b :: rest
  | [], before, behind, h => by simp at h
  | x :: xs, before, behind, h => by
    rw [List.flatMap_cons] at h
    rcases List.append_eq_append_iff.1 h with ⟨inner, rfl, later⟩ | ⟨inner, own, other⟩
    · obtain ⟨first, y, last, more, rest, rfl, rfl, found⟩ := exists_of_flatMap_eq later
      exact ⟨x :: first, y, last, more, rest, rfl, by simp, found⟩
    · cases inner with
      | nil =>
        have later : xs.flatMap f = [] ++ b :: behind := other.symm
        obtain ⟨first, y, last, more, rest, rfl, empty, found⟩ := exists_of_flatMap_eq later
        have whole : before = (x :: first).flatMap f ++ more := by
          rw [List.flatMap_cons, List.append_assoc, ← empty, own, List.append_nil, List.append_nil]
        exact ⟨x :: first, y, last, more, rest, rfl, whole, found⟩
      | cons c inner =>
        obtain ⟨rfl, -⟩ := List.cons.inj other
        exact ⟨[], x, xs, before, inner, rfl, rfl, own⟩

/-- What a filtered list has is made of something that stands behind what makes the list before it.
-/
theorem exists_of_filterMap_eq {f : α → Option β} {xs : List α} {before after : List β} {b : β}
    (h : xs.filterMap f = before ++ b :: after) :
    ∃ first x last, xs = first ++ x :: last ∧ first.filterMap f = before ∧ f x = some b := by
  obtain ⟨start, rest, rfl, same, tail⟩ := List.filterMap_eq_append_iff.1 h
  obtain ⟨blank, x, last, rfl, none, found, -⟩ := List.filterMap_eq_cons_iff.1 tail
  refine ⟨start ++ blank, x, last, by simp, ?_, found⟩
  rw [List.filterMap_append, same, List.filterMap_eq_nil_iff.2 none, List.append_nil]

end

/-! ## §2 The context that matches make -/

namespace Match

/-- The text of the last effect. -/
def lastEffect? (found : List Match) : Option Text :=
  ((found.filter fun m => decide (m.category = .effect)).getLast?).map text

/-- The texts of the types. -/
def typeTexts (found : List Match) : List Text :=
  (found.filter fun m => decide (m.category = .type)).map text

theorem exists_of_lastEffect? {found : List Match} {effect : Text}
    (h : lastEffect? found = some effect) :
    ∃ m ∈ found, m.category = .effect ∧ m.text = effect := by
  obtain ⟨m, last, same⟩ := Option.map_eq_some_iff.1 h
  have member := List.mem_of_getLast? last
  rw [List.mem_filter, decide_eq_true_eq] at member
  exact ⟨m, member.1, member.2, same⟩

theorem mem_typeTexts {found : List Match} {t : Text} :
    t ∈ typeTexts found ↔ ∃ m ∈ found, m.category = .type ∧ m.text = t := by
  simp [typeTexts, and_assoc]

end Match

namespace Context

/-- The context behind matches. -/
def of (found : List Match) : Context := ⟨Match.lastEffect? found, Match.typeTexts found⟩

theorem of_concat (found : List Match) (m : Match) :
    of (found ++ [m]) = (of found).after (.matched m) := by
  unfold of after Match.lastEffect? Match.typeTexts
  cases category : m.category <;> simp [List.filter_append, category]

/-- A finding changes the context by its match only. -/
theorem after_of (found : List Match) (finding : Finding) :
    (of found).after finding = of (found ++ finding.match?.toList) := by
  cases finding with
  | matched m => exact (of_concat found m).symm
  | silent phrase => simp [after, Finding.match?]
  | dropped word => simp [after, Finding.match?]

/-- **The context behind findings is that of their matches.** -/
theorem afterAll_of (found : List Match) (findings : List Finding) :
    (of found).afterAll findings = of (found ++ findings.filterMap Finding.match?) := by
  induction findings generalizing found with
  | nil => simp [afterAll]
  | cons finding findings ih =>
    have step : (of found).afterAll (finding :: findings) =
        ((of found).after finding).afterAll findings := rfl
    rw [step, after_of, ih, List.append_assoc]
    cases finding <;> rfl

end Context

/-! ## §3 Where a match stands -/

/-- The words that a finding accounts for. -/
def Finding.words (finding : Finding) : List Text := Text.words finding.phrase

namespace Dialect

variable {d : Dialect} {window : Nat} {ctx : Context}

/-- The match was read in a clause: behind all matches of `before`, and with the words `later` of
its clause behind its own phrase. -/
inductive Reading.ReadAt (reading : Reading) : List Match → Match → List Text → Prop
  | intro {clausesBefore clausesBehind : List ClauseReading} {clause : ClauseReading}
      {findings findingsBehind : List Finding} {m : Match} {before : List Match}
      {later : List Text} :
      reading.clauses = clausesBefore ++ clause :: clausesBehind →
      clause.findings = findings ++ .matched m :: findingsBehind →
      before = (reading.keywords.map Prod.snd ++ clausesBefore.flatMap ClauseReading.findings ++
        findings).filterMap Finding.match? →
      Clause.words clause.clause = findings.flatMap Finding.words ++ Text.words m.phrase ++ later →
      ReadAt reading before m later

/-- The match is what a claim makes of its words when `later` follows them. -/
def Claims (d : Dialect) (window : Nat) (ctx : Context) (m : Match) (later : List Text) : Prop :=
  ∃ previous claim,
    d.bestClaim? window ctx previous (Text.words m.phrase ++ later) = some claim ∧
      claim.length = (Text.words m.phrase).length ∧
      m.category = claim.category ∧ m.text = Text.normalize claim.text

/-- A match among the findings of words comes from a claim, in the context that the findings before
it leave. -/
theorem claims_of_wordsRead {previous : Option Text} {words : List Text} {findings : List Finding}
    (proper : ∀ w ∈ words, Text.IsWord w) (h : WordsRead d window ctx previous words findings) :
    ∀ {before behind : List Finding} {m : Match}, findings = before ++ .matched m :: behind →
      ∃ later, words = before.flatMap Finding.words ++ Text.words m.phrase ++ later ∧
        d.Claims window (ctx.afterAll before) m later := by
  induction h with
  | nil => intro before behind m split; simp at split
  | @dropped ctx previous word rest findings _ _ ih =>
    intro before behind m split
    cases before with
    | nil => simp at split
    | cons first before =>
      obtain ⟨rfl, rest⟩ := List.cons.inj split
      obtain ⟨later, whole, claims⟩ :=
        ih (fun w hw => proper w (List.mem_cons_of_mem word hw)) rest
      refine ⟨later, ?_, claims⟩
      have own : Finding.words (.dropped word) = [word] :=
        Text.words_of_isWord (proper word (by simp))
      rw [List.flatMap_cons, own, whole]
      simp
  | @claimed ctx previous phrase rest claim finding findings best length made _ ih =>
    intro before behind m split
    have own : Text.words (Text.unwords phrase) = phrase :=
      Text.words_unwords fun w hw => proper w (List.mem_append_left rest hw)
    cases before with
    | nil =>
      obtain ⟨rfl, -⟩ := List.cons.inj split
      obtain ⟨same, category, normal⟩ :=
        Finding.match?_ofPhrase (m := m) (congrArg Finding.match? made.symm)
      rw [← same] at own
      refine ⟨rest, by simp [own], previous, claim, ?_, ?_, category, normal⟩
      · rw [own]
        exact best
      · rw [own, length]
    | cons first before =>
      obtain ⟨rfl, inRest⟩ := List.cons.inj split
      obtain ⟨later, whole, claims⟩ :=
        ih (fun w hw => proper w (List.mem_append_right phrase hw)) inRest
      refine ⟨later, ?_, claims⟩
      have phraseWords : Finding.words finding = phrase := by
        rw [Finding.words, made, Finding.phrase_ofPhrase, own]
      rw [List.flatMap_cons, phraseWords, whole]
      simp

/-- A match among the findings of a clause has the category of a capture, or it comes from a claim.
-/
theorem claims_of_clauseRead {words : List Text} {findings before behind : List Finding} {m : Match}
    (proper : ∀ w ∈ words, Text.IsWord w) (h : ClauseRead d window ctx words findings)
    (split : findings = before ++ .matched m :: behind) :
    m.category ∈ d.captures.map Prod.snd ∨
      ∃ later, words = before.flatMap Finding.words ++ Text.words m.phrase ++ later ∧
        d.Claims window (ctx.afterAll before) m later := by
  cases h with
  | empty => simp at split
  | @captured _ category finding _ captured made =>
    have only : Finding.matched m = finding := by
      have member : Finding.matched m ∈ [finding] := by rw [split]; simp
      exact List.mem_singleton.1 member
    obtain ⟨-, tagged, -⟩ :=
      Finding.match?_ofPhrase (m := m) (congrArg Finding.match? (only.trans made).symm)
    obtain ⟨capture, declared, same, -⟩ := capture?_eq_some captured
    exact .inl (List.mem_map.2 ⟨capture, declared, same.trans tagged.symm⟩)
  | byWords read => exact .inr (claims_of_wordsRead proper read split)

/-- **Where a match on record comes from.** Its category is that of a keyword or of a capture, or
the match comes from a claim in one of the clauses, in the context that all matches before it make.
-/
theorem source_of_found (options : ParseOptions) (text : Text) {before after : List Match}
    {m : Match} (split : (d.classify options text).trace.found = before ++ m :: after) :
    m.category ∈ d.openings.map Prod.snd ∨ m.category ∈ d.captures.map Prod.snd ∨
      ∃ later, (d.readingOf options text).ReadAt before m later ∧
        d.Claims (d.windowFor options) (.of before) m later := by
  rw [found_eq_found_readingOf, Reading.found] at split
  obtain ⟨findings, finding, behind, cut, rfl, isMatch⟩ := exists_of_filterMap_eq split
  obtain rfl : finding = .matched m := by
    cases finding <;> simp_all [Finding.match?]
  rw [Reading.findings, keywords_readingOf] at cut
  rcases mem_or_of_append_eq cut with opened | ⟨inClauses, rfl, rest⟩
  · obtain ⟨opening, opens, made⟩ := List.mem_map.1 opened
    obtain ⟨-, category, -⟩ := Finding.match?_ofPhrase (m := m) (congrArg Finding.match? made)
    exact .inl (List.mem_map.2 ⟨opening, mem_openings_of_openingsWithin opens, category.symm⟩)
  · obtain ⟨clausesBefore, clause, clausesBehind, findings, findingsBehind, clauses, rfl, own⟩ :=
      exists_of_flatMap_eq rest
    obtain ⟨words, read⟩ :=
      clauseRead_of_readClauses_eq ((clauses_readingOf _ _).symm.trans clauses)
    rw [words] at read
    have proper : ∀ w ∈ Clause.words clause.clause, Text.IsWord w :=
      fun _ member => (Clause.isLowerWord_of_mem_words member).1
    refine .inr ?_
    rcases claims_of_clauseRead proper read own with captured | ⟨later, whole, claims⟩
    · exact .inl captured
    · refine .inr ⟨later, .intro clauses own ?_ whole, ?_⟩
      · rw [keywords_readingOf, List.append_assoc]
      · have start : ({} : Context) = .of [] := rfl
        rwa [← Context.afterAll_append, ← Context.afterAll_append, start, Context.afterAll_of,
          List.nil_append] at claims

end Dialect

end AbilityText

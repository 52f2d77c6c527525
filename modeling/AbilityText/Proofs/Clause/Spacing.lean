/-
AbilityText.Proofs.Clause.Spacing — the clauses of a text in another layout.

The words of a clause come from its pieces between white space, one by one (`words_congr`), and the
separating "then" may have any white space around it. So the stretches of a squeezed text are the
squeezed stretches of the text (`stretches_squeeze`), and its clauses have the same words
(`map_words_ofText_squeeze`).
-/
import AbilityText.Proofs.Clause
import AbilityText.Proofs.Text.Phrases

namespace AbilityText.Clause

open Text (IsWord isSpace squeeze opensSpaced)

/-! ## §1 The words of a clause -/

theorem readPlurals_cons {c : Char} {t : Text} (h : Text.after? "(s)" (c :: t) = none) :
    readPlurals (c :: t) = c :: readPlurals t := by
  rw [readPlurals]
  rintro rest rfl rfl
  exact absurd h (by simp [Text.after?])

/-- No plural ending reaches over white space. -/
theorem readPlurals_append_cons (c : Char) (space : isSpace c = true) (t u : Text) :
    readPlurals (t ++ c :: u) = readPlurals t ++ c :: readPlurals u := by
  have apart : c ∉ ("(s)" : Text) := by
    intro member
    have solid : IsWord ("(s)" : Text) := by decide
    rw [solid.2 c member] at space
    exact Bool.noConfusion space
  fun_induction readPlurals t with
  | case1 =>
    refine readPlurals_cons ?_
    have other : '(' ≠ c := fun same => apart (same ▸ by decide)
    simp [Text.after?, other]
  | case2 rest ih => simp only [List.cons_append, readPlurals, ih]
  | case3 d rest other ih =>
    have goesOn : Text.after? "(s)" (d :: rest) = none := by
      rw [Option.eq_none_iff_forall_ne_some]
      intro tail cut
      obtain ⟨rfl, rfl⟩ := List.cons.inj (Text.after?_eq_some cut)
      exact other tail rfl rfl
    have joined := Text.after?_append_of_not_mem apart (d :: rest) u
    rw [goesOn, Option.map_none, List.cons_append] at joined
    rw [List.cons_append, readPlurals_cons joined, ih, List.cons_append]

theorem isWord_readPlurals {w : Text} (h : IsWord w) : IsWord (readPlurals w) := by
  obtain ⟨nonempty, solid⟩ := h
  constructor
  · fun_induction readPlurals w with
    | case1 => exact absurd rfl nonempty
    | case2 => simp
    | case3 => simp
  · clear nonempty
    fun_induction readPlurals w with
    | case1 => exact solid
    | case2 rest ih =>
      simp only [List.forall_mem_cons] at solid ⊢
      exact ⟨solid.2.1, ih solid.2.2.2⟩
    | case3 c rest other ih =>
      simp only [List.forall_mem_cons] at solid ⊢
      exact ⟨solid.1, ih solid.2⟩

theorem words_readPlurals (t : Text) :
    Text.words (readPlurals t) = (Text.words t).map readPlurals :=
  Text.words_map rfl readPlurals_append_cons (fun _ => isWord_readPlurals) t

/-- Other clauses with the same words between white space have the same words. -/
theorem words_congr {a b : Text} (same : Text.words a = Text.words b) : words a = words b := by
  rw [words, words, words_readPlurals, words_readPlurals, same]

/-! ## §2 Separators -/

theorem afterSpace?_squeeze (t : Text) :
    afterSpace? (squeeze t) = (afterSpace? t).map squeeze := by
  cases t with
  | nil => rfl
  | cons c t =>
    cases space : isSpace c with
    | true =>
      have rest := Text.dropWhile_isSpace_of_not_opensSpaced (Text.opensSpaced_dropWhile_isSpace t)
      rw [Text.squeeze_cons_of_isSpace space, afterSpace?, if_pos Text.isSpace_space, afterSpace?,
        if_pos space, Text.dropWhile_isSpace_squeeze, rest, Option.map_some]
    | false =>
      rw [Text.squeeze_cons_solid space]
      simp [afterSpace?, space]

theorem isWord_then : IsWord ("then" : Text) := by decide

/-- What follows the separator that opens a text, when one does. -/
def afterSeparator? (t : Text) : Option Text :=
  if (t.takeWhile isBreak).isEmpty then
    ((afterSpace? t).bind (Text.after? "then")).bind afterSpace?
  else some (t.dropWhile isBreak)

theorem afterThen?_squeeze (t : Text) : (afterSpace? (squeeze t)).bind (Text.after? "then") =
    ((afterSpace? t).bind (Text.after? "then")).map squeeze := by
  rw [afterSpace?_squeeze]
  cases afterSpace? t with
  | none => rfl
  | some rest => exact Text.after?_squeeze_of_isWord isWord_then rest

theorem afterSeparator?_squeeze (t : Text) :
    afterSeparator? (squeeze t) = (afterSeparator? t).map squeeze := by
  rw [afterSeparator?, afterSeparator?, Text.takeWhile_squeeze fun _ => isSpace_of_isBreak,
    Text.dropWhile_squeeze fun _ => isSpace_of_isBreak, afterThen?_squeeze]
  split
  · cases (afterSpace? t).bind (Text.after? "then") with
    | none => rfl
    | some rest => exact afterSpace?_squeeze rest
  · rfl

/-! ## §3 Stretches -/

/-- What follows white space lies behind the first character. -/
theorem afterSpace?_eq_some {c : Char} {t rest : Text} (h : afterSpace? (c :: t) = some rest) :
    isSpace c = true ∧ rest <:+ t := by
  rw [afterSpace?] at h
  split at h
  · next space =>
    rw [← Option.some.inj h]
    exact ⟨space, List.dropWhile_suffix isSpace⟩
  · exact absurd h (by simp)

theorem afterSpace?_suffix {t rest : Text} (h : afterSpace? t = some rest) : rest <:+ t := by
  cases t with
  | nil => exact absurd h (by simp [afterSpace?])
  | cons c t => exact (afterSpace?_eq_some h).2.trans (List.suffix_cons c t)

/-- The separator lies between the start of a text and what follows the separator. -/
theorem separatorLength_eq (t : Text) :
    separatorLength t = ((afterSeparator? t).map fun rest => t.length - rest.length).getD 0 := by
  rw [separatorLength, afterSeparator?]
  cases run : t.takeWhile isBreak with
  | nil =>
    rw [List.isEmpty_nil, if_pos rfl]
    cases ((afterSpace? t).bind (Text.after? "then")).bind afterSpace? <;> rfl
  | cons c breaks =>
    have cut := congrArg List.length (List.takeWhile_append_dropWhile (p := isBreak) (l := t))
    rw [run, List.length_append] at cut
    simp only [List.isEmpty_cons, Bool.false_eq_true, if_false, Option.map_some, Option.getD_some]
    omega

theorem afterSeparator?_suffix {c : Char} {t rest : Text}
    (h : afterSeparator? (c :: t) = some rest) : rest <:+ t := by
  rw [afterSeparator?] at h
  split at h
  · obtain ⟨behind, cut, spaced⟩ := Option.bind_eq_some_iff.1 h
    obtain ⟨word, opens, cut⟩ := Option.bind_eq_some_iff.1 cut
    have inWord : behind <:+ word := ⟨_, (Text.after?_eq_some cut).symm⟩
    exact ((afterSpace?_suffix spaced).trans inWord).trans (afterSpace?_eq_some opens).2
  · next breaks =>
    have first : isBreak c = true := by
      by_contra other
      rw [List.takeWhile_cons_of_neg other] at breaks
      exact breaks rfl
    rw [← Option.some.inj h, List.dropWhile_cons_of_pos first]
    exact List.dropWhile_suffix isBreak

/-- A separator ends an empty stretch. -/
theorem stretches_of_afterSeparator? {c : Char} {t rest : Text}
    (h : afterSeparator? (c :: t) = some rest) :
    stretches 0 (c :: t) = [] :: stretches 0 rest := by
  obtain ⟨passed, rfl⟩ := afterSeparator?_suffix h
  have length := separatorLength_eq (c :: (passed ++ rest))
  rw [h, Option.map_some, Option.getD_some, List.length_cons, List.length_append,
    show passed.length + rest.length + 1 - rest.length = passed.length + 1 by omega] at length
  simp only [stretches, length, stretches_append]

/-- Without a separator, the first character joins the first stretch of the rest. -/
theorem stretches_cons_of_none {c : Char} {t stretch : Text} {more : List Text}
    (h : afterSeparator? (c :: t) = none) (rest : stretches 0 t = stretch :: more) :
    stretches 0 (c :: t) = (c :: stretch) :: more := by
  have length := separatorLength_eq (c :: t)
  rw [h, Option.map_none, Option.getD_none] at length
  simp only [stretches, length, rest]

/-- A text opens with its first stretch. -/
theorem exists_stretches : ∀ t : Text,
    ∃ stretch more, stretches 0 t = stretch :: more ∧ stretch <+: t
  | [] => ⟨[], [], rfl, List.nil_prefix⟩
  | c :: t => by
    cases found : afterSeparator? (c :: t) with
    | some rest => exact ⟨[], _, stretches_of_afterSeparator? found, List.nil_prefix⟩
    | none =>
      obtain ⟨stretch, more, rest, initial⟩ := exists_stretches t
      exact ⟨c :: stretch, more, stretches_cons_of_none found rest,
        List.cons_prefix_cons.2 ⟨rfl, initial⟩⟩

theorem afterSpace?_cons_of_opensSpaced {c : Char} {t : Text} (space : isSpace c = true)
    (spaced : opensSpaced t = true) : afterSpace? (c :: t) = afterSpace? t := by
  cases t with
  | nil => simp at spaced
  | cons d t =>
    rw [Text.opensSpaced_cons] at spaced
    rw [afterSpace?, if_pos space, afterSpace?, if_pos spaced, List.dropWhile_cons_of_pos spaced]

theorem takeWhile_isBreak_of_opensSpaced {t : Text} (spaced : opensSpaced t = true) :
    t.takeWhile isBreak = [] := by
  cases t with
  | nil => rfl
  | cons d t =>
    refine List.takeWhile_cons_of_neg fun isBreak => ?_
    rw [Text.opensSpaced_cons, isSpace_of_isBreak isBreak] at spaced
    exact Bool.noConfusion spaced

/-- White space before white space makes no difference to separators. -/
theorem afterSeparator?_cons_of_opensSpaced {c : Char} {t : Text} (space : isSpace c = true)
    (spaced : opensSpaced t = true) : afterSeparator? (c :: t) = afterSeparator? t := by
  have own : opensSpaced (c :: t) = true := space
  rw [afterSeparator?, afterSeparator?, takeWhile_isBreak_of_opensSpaced own,
    takeWhile_isBreak_of_opensSpaced spaced, afterSpace?_cons_of_opensSpaced space spaced]
  rfl

/-- Where no separator opens a text, its first stretch opens with white space if the text does. -/
theorem opensSpaced_stretch {t stretch : Text} {more : List Text}
    (none : afterSeparator? t = none) (cut : stretches 0 t = stretch :: more) :
    opensSpaced stretch = opensSpaced t := by
  cases t with
  | nil =>
    obtain ⟨rfl, -⟩ := List.cons.inj cut
    rfl
  | cons c t =>
    obtain ⟨own, others, rest, -⟩ := exists_stretches t
    rw [stretches_cons_of_none none rest] at cut
    rw [← (List.cons.inj cut).1, Text.opensSpaced_cons, Text.opensSpaced_cons]

/-- **The stretches of a squeezed text are the squeezed stretches of the text.** -/
theorem stretches_squeeze (t : Text) : stretches 0 (squeeze t) = (stretches 0 t).map squeeze := by
  match t with
  | [] => rfl
  | c :: t =>
    have found := afterSeparator?_squeeze (c :: t)
    cases separated : afterSeparator? (c :: t) with
    | some behind =>
      have shorter := (afterSeparator?_suffix separated).length_le
      obtain ⟨e, u, shape⟩ := List.exists_cons_of_ne_nil
        (mt Text.squeeze_eq_nil_iff.1 (List.cons_ne_nil c t))
      rw [separated, shape] at found
      rw [shape, stretches_of_afterSeparator? found, stretches_of_afterSeparator? separated,
        stretches_squeeze behind]
      rfl
    | none =>
      obtain ⟨stretch, more, rest, initial⟩ := exists_stretches t
      have later := stretches_squeeze t
      rw [rest, List.map_cons] at later
      rw [separated] at found
      rw [stretches_cons_of_none separated rest, List.map_cons]
      cases space : isSpace c with
      | false =>
        rw [Text.squeeze_cons_solid space] at found ⊢
        rw [stretches_cons_of_none found later, Text.squeeze_cons_solid space]
      | true =>
        cases spaced : opensSpaced t with
        | false =>
          have solid := Text.opensSpaced_of_initial initial spaced
          rw [Text.squeeze_cons_space space spaced] at found ⊢
          rw [stretches_cons_of_none found later, Text.squeeze_cons_space space solid]
        | true =>
          -- The first stretch of the rest opens with the white space that is left.
          rw [afterSeparator?_cons_of_opensSpaced space spaced] at separated
          have opens := (opensSpaced_stretch separated rest).trans spaced
          rw [Text.squeeze_cons_of_opensSpaced space spaced, later,
            Text.squeeze_cons_of_opensSpaced space opens]
termination_by t.length
decreasing_by
  all_goals simp only [List.length_cons]; omega

/-! ## §4 Clauses -/

/-- The clauses of a text have the words of its stretches. -/
theorem map_words_ofText (t : Text) : (ofText t).map words =
    ((stretches 0 t).filter fun stretch => !(Text.words stretch).isEmpty).map words := by
  have kept : ∀ stretch : Text, (!(Text.trim stretch).isEmpty) = !(Text.words stretch).isEmpty := by
    intro stretch
    rw [Bool.eq_iff_iff]
    simp only [Bool.not_eq_true', List.isEmpty_eq_false_iff, ne_eq, Text.trim_eq_nil_iff]
  have same : words ∘ Text.trim = words :=
    funext fun stretch => words_congr (Text.words_trim stretch)
  rw [ofText, List.filter_map, List.map_map, same]
  exact congrArg (List.map words) (List.filter_congr fun stretch _ => kept stretch)

/-- **The clauses of a squeezed text have the words of the clauses of the text.** -/
theorem map_words_ofText_squeeze (t : Text) :
    (ofText (squeeze t)).map words = (ofText t).map words := by
  have same : words ∘ squeeze = words :=
    funext fun stretch => words_congr (Text.words_squeeze stretch)
  rw [map_words_ofText, map_words_ofText, stretches_squeeze, List.filter_map, List.map_map, same]
  simp only [Function.comp_def, Text.words_squeeze]

end AbilityText.Clause

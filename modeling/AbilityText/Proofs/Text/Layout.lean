/-
AbilityText.Proofs.Text.Layout — the layouts of some words, and the one that they have when white
space is collapsed.

Words are laid out in a text when they stand in it in their order, with white space between any two
of them (`LaidOut`). Every text is a layout of its words and of no others (`laidOut_iff`). Among
the layouts of some words one has single spaces only, and none at its ends: the collapsed text
(`collapse_eq_self_iff`), of which the normal form is the lower case.
-/
import AbilityText.Proofs.Text.Spacing

namespace AbilityText.Text

/-! ## §1 Single spaces -/

/-- All white space is single spaces. -/
structure SingleSpaced (t : Text) : Prop where
  eq_space : ∀ c ∈ t, isSpace c = true → c = ' '
  single : ¬[' ', ' '] <:+: t

section
variable {t : Text}

theorem singleSpaced_nil : SingleSpaced [] := ⟨by simp, by simp⟩

theorem singleSpaced_cons {c : Char} : SingleSpaced (c :: t) ↔
    (isSpace c = true → c = ' ' ∧ opensSpaced t = false) ∧ SingleSpaced t := by
  constructor
  · intro h
    obtain ⟨first, later⟩ := List.forall_mem_cons.1 h.eq_space
    refine ⟨fun space => ⟨first space, ?_⟩, later, fun twice => h.single ?_⟩
    · -- White space behind the space would be a second one.
      cases t with
      | nil => rfl
      | cons d rest =>
        rw [opensSpaced_cons, Bool.eq_false_iff]
        intro spaceToo
        obtain rfl : c = ' ' := first space
        obtain rfl : d = ' ' := later d List.mem_cons_self spaceToo
        exact h.single (List.prefix_append [' ', ' '] rest).isInfix
    · exact twice.trans (List.suffix_cons c t).isInfix
  · rintro ⟨first, later⟩
    refine ⟨List.forall_mem_cons.2 ⟨fun space => (first space).1, later.eq_space⟩, fun twice => ?_⟩
    rcases List.infix_cons_iff.1 twice with opens | inside
    · obtain ⟨rfl, rest, rfl⟩ := List.cons_prefix_cons.1 opens
      exact absurd (first isSpace_space).2 (by simp [isSpace_space])
    · exact later.single inside

theorem SingleSpaced.of_infix (h : SingleSpaced t) {part : Text} (inside : part <:+: t) :
    SingleSpaced part :=
  ⟨fun c member => h.eq_space c (inside.subset member), fun twice => h.single (twice.trans inside)⟩

theorem singleSpaced_squeeze (t : Text) : SingleSpaced (squeeze t) := by
  induction t using squeeze_induction with
  | nil => exact singleSpaced_nil
  | gap c rest blank spaced ih => rwa [squeeze_cons_of_opensSpaced blank spaced]
  | space c rest blank solid ih =>
    rw [squeeze_cons_space blank solid, singleSpaced_cons, opensSpaced_squeeze]
    exact ⟨fun _ => ⟨rfl, solid⟩, ih⟩
  | solid c rest solid ih =>
    rw [squeeze_cons_solid solid, singleSpaced_cons]
    exact ⟨fun space => absurd space (by simp [solid]), ih⟩

theorem squeeze_of_singleSpaced (h : SingleSpaced t) : squeeze t = t := by
  induction t using squeeze_induction with
  | nil => rfl
  | gap c rest blank spaced ih =>
    rw [((singleSpaced_cons.1 h).1 blank).2] at spaced
    exact Bool.noConfusion spaced
  | space c rest blank solid ih =>
    obtain ⟨first, later⟩ := singleSpaced_cons.1 h
    rw [squeeze_cons_space blank solid, ih later, (first blank).1]
  | solid c rest solid ih => rw [squeeze_cons_solid solid, ih (singleSpaced_cons.1 h).2]

/-- Squeezing takes away white space only. -/
theorem filter_squeeze {keeps : Char → Bool} (h : ∀ c, isSpace c = true → keeps c = false)
    (t : Text) : (squeeze t).filter keeps = t.filter keeps := by
  have space : keeps ' ' = false := h ' ' isSpace_space
  induction t using squeeze_induction with
  | nil => rfl
  | gap c rest blank spaced ih => simp [squeeze_cons_of_opensSpaced blank spaced, ih, h c blank]
  | space c rest blank solid ih => simp [squeeze_cons_space blank solid, ih, h c blank, space]
  | solid c rest solid ih => simp [squeeze_cons_solid solid, List.filter_cons, ih]

theorem filter_collapse {keeps : Char → Bool} (h : ∀ c, isSpace c = true → keeps c = false)
    (t : Text) : (collapse t).filter keeps = t.filter keeps := by
  rw [← squeeze_trim, filter_squeeze h, trim, filter_trimOf h]

theorem isTrimmed_squeeze (h : IsTrimmed t) : IsTrimmed (squeeze t) := by
  refine ⟨(opensSpaced_squeeze t).trans h.1, fun c last => ?_⟩
  rcases List.eq_nil_or_concat t with rfl | ⟨front, d, rfl⟩
  · simp [squeeze] at last
  · have solid : isSpace d = false := h.2 d (by simp)
    rw [List.concat_eq_append, squeeze_append_cons solid] at last
    obtain rfl : d = c := by simpa [squeeze] using last
    exact solid

theorem singleSpaced_collapse (t : Text) : SingleSpaced (collapse t) :=
  squeeze_trim t ▸ singleSpaced_squeeze (trim t)

theorem isTrimmed_collapse (t : Text) : IsTrimmed (collapse t) :=
  squeeze_trim t ▸ isTrimmed_squeeze (isTrimmed_trim t)

/-- **A collapsed text is one with single spaces only and none at its ends.** -/
theorem collapse_eq_self_iff : collapse t = t ↔ IsTrimmed t ∧ SingleSpaced t := by
  constructor
  · intro same
    rw [← same]
    exact ⟨isTrimmed_collapse t, singleSpaced_collapse t⟩
  · rintro ⟨trimmed, spaced⟩
    rw [← squeeze_of_isTrimmed trimmed, squeeze_of_singleSpaced spaced]

end

/-! ## §2 Words in their layouts -/

/-- The words stand in the text in this order, each of them up to white space or to the end, and
there is nothing else but white space. -/
inductive LaidOut : List Text → Text → Prop
  | blank {gap : Text} : isBlank gap = true → LaidOut [] gap
  | word {gap w rest : Text} {ws : List Text} : isBlank gap = true → IsWord w →
      (rest ≠ [] → opensSpaced rest = true) → LaidOut ws rest →
      LaidOut (w :: ws) (gap ++ (w ++ rest))

section
variable {ws : List Text} {t : Text}

theorem LaidOut.cons_space {c : Char} (space : isSpace c = true) (h : LaidOut ws t) :
    LaidOut ws (c :: t) := by
  have wider : ∀ {gap : Text}, isBlank gap = true → isBlank (c :: gap) = true := fun blank => by
    rw [isBlank, List.all_cons, space]
    exact blank
  cases h with
  | blank gap => exact .blank (wider gap)
  | word gap isWord ends later => exact .word (wider gap) isWord ends later

theorem words_of_laidOut (h : LaidOut ws t) : words t = ws := by
  induction h with
  | blank gap => exact words_eq_nil_iff.2 gap
  | @word gap w rest ws blank isWord ends later ih =>
    have apart : words (w ++ rest) = words w ++ words rest := by
      by_cases none : rest = []
      · rw [none, List.append_nil, words_nil, List.append_nil]
      · exact words_append_of_opensSpaced w (ends none)
    rw [words_append_of_isBlank blank, apart, words_of_isWord isWord, ih, List.singleton_append]

/-- A text is laid out word by word: the first piece, the white space behind it, and the rest. -/
theorem laidOut_words (t : Text) : LaidOut (words t) t := by
  obtain ⟨piece, outer, rfl, solid, spaced⟩ := exists_cut_at_space t
  have later : LaidOut (words outer) outer := by
    cases outer with
    | nil => exact .blank rfl
    | cons c rest =>
      have space : isSpace c = true := spaced c rfl
      rw [words_cons_space space]
      exact (laidOut_words rest).cons_space space
  by_cases none : piece = []
  · rwa [none, List.nil_append]
  · have isWord : IsWord piece := ⟨none, solid⟩
    have ends : outer ≠ [] → opensSpaced outer = true := by
      cases outer with
      | nil => exact fun filled => absurd rfl filled
      | cons c rest => exact fun _ => spaced c rfl
    have whole : LaidOut (piece :: words outer) ([] ++ (piece ++ outer)) :=
      .word rfl isWord ends later
    have listed : words (piece ++ outer) = piece :: words outer := words_of_laidOut whole
    rwa [listed]
termination_by t.length
decreasing_by
  subst_vars
  simp only [List.length_append, List.length_cons]
  omega

/-- **A text is a layout of its words**, and of no others. -/
theorem laidOut_iff : LaidOut ws t ↔ words t = ws :=
  ⟨words_of_laidOut, fun same => same ▸ laidOut_words t⟩

end

/-! ## §3 Spellings of a text -/

/-- Are the texts layouts of the same words, up to the case of ASCII letters? Any white space may
stand between the words and around them. -/
def Respelled (s t : Text) : Prop :=
  ∃ ws vs, LaidOut ws s ∧ LaidOut vs t ∧
    ws.map (List.map Char.toLower) = vs.map (List.map Char.toLower)

/-- The normal form shows neither the case of ASCII letters nor the layout. -/
theorem normalize_eq_of_respelled {s t : Text} (h : Respelled s t) : normalize s = normalize t := by
  obtain ⟨ws, vs, laidOut, laidOut', same⟩ := h
  have lowered : ∀ us : List Text, us.map lower = (us.map (List.map Char.toLower)).map lower :=
    fun us => by simp only [List.map_map, Function.comp_def, lower_map_toLower]
  rw [normalize, words_of_laidOut laidOut, lowered ws, same, ← lowered vs,
    ← words_of_laidOut laidOut', normalize]

/-- The normal form lays out the words of a text in lower case. -/
theorem laidOut_normalize {ws : List Text} {t : Text} (h : LaidOut ws t) :
    LaidOut (ws.map lower) (normalize t) := by
  rw [laidOut_iff, words_normalize, words_of_laidOut h]

/-- What is normal is collapsed. -/
theorem collapse_normalize (t : Text) : collapse (normalize t) = normalize t :=
  collapse_of_isNormal (isNormal_normalize t)

end AbilityText.Text

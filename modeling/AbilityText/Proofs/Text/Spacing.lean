/-
AbilityText.Proofs.Text.Spacing — texts that differ in their white space alone.

`squeeze` makes every run of white space one space. Two texts with the same words, trimmed and in
lower case, are squeezed to one text, their normal form (`squeeze_lower_trim`). So what a function
makes of a text does not depend on its layout where it makes the same of the squeezed text.
-/
import AbilityText.Proofs.Text.Normal
import AbilityText.Proofs.Text.WholeWords

namespace AbilityText.Text

/-! ## §1 Runs of white space made one space -/

theorem ne_of_isSpace {c d : Char} (space : isSpace c = true) (solid : isSpace d = false) :
    c ≠ d := by
  rintro rfl
  rw [space] at solid
  exact Bool.noConfusion solid

/-- Does white space open the text? -/
def opensSpaced (t : Text) : Bool := t.head?.any isSpace

@[simp] theorem opensSpaced_nil : opensSpaced [] = false := rfl

@[simp] theorem opensSpaced_cons (c : Char) (t : Text) : opensSpaced (c :: t) = isSpace c := rfl

theorem opensSpaced_append_cons {c : Char} (h : isSpace c = false) (a b : Text) :
    opensSpaced (a ++ c :: b) = opensSpaced a := by
  cases a with
  | nil => exact h
  | cons d a => rfl

/-- The text with every run of white space made one space. -/
def squeeze : Text → Text
  | [] => []
  | c :: rest =>
    if isSpace c then
      if opensSpaced rest then squeeze rest else ' ' :: squeeze rest
    else c :: squeeze rest

section
variable {c : Char} {t : Text}

theorem squeeze_cons_solid (h : isSpace c = false) (t : Text) :
    squeeze (c :: t) = c :: squeeze t := by
  rw [squeeze, h]
  rfl

/-- White space before white space is squeezed away. -/
theorem squeeze_cons_of_opensSpaced (h : isSpace c = true) (spaced : opensSpaced t = true) :
    squeeze (c :: t) = squeeze t := by
  rw [squeeze, if_pos h, if_pos spaced]

theorem squeeze_cons_space (h : isSpace c = true) (solid : opensSpaced t = false) :
    squeeze (c :: t) = ' ' :: squeeze t := by
  rw [squeeze, if_pos h, if_neg (by simp [solid])]

/-- Induction along a text as it is squeezed: white space has more of it behind it (`gap`) or not
(`space`), or there is none (`solid`). -/
@[elab_as_elim]
theorem squeeze_induction {motive : Text → Prop} (nil : motive [])
    (gap : ∀ c rest, isSpace c = true → opensSpaced rest = true → motive rest → motive (c :: rest))
    (space : ∀ c rest, isSpace c = true → opensSpaced rest = false → motive rest →
      motive (c :: rest))
    (solid : ∀ c rest, isSpace c = false → motive rest → motive (c :: rest)) (t : Text) :
    motive t := by
  induction t with
  | nil => exact nil
  | cons c rest ih =>
    cases blank : isSpace c with
    | false => exact solid c rest blank ih
    | true =>
      cases spaced : opensSpaced rest with
      | true => exact gap c rest blank spaced ih
      | false => exact space c rest blank spaced ih

@[simp] theorem opensSpaced_squeeze (t : Text) : opensSpaced (squeeze t) = opensSpaced t := by
  induction t using squeeze_induction with
  | nil => rfl
  | gap c rest blank spaced ih =>
    rw [squeeze_cons_of_opensSpaced blank spaced, ih, spaced, opensSpaced_cons, blank]
  | space c rest blank solid =>
    rw [squeeze_cons_space blank solid, opensSpaced_cons, isSpace_space, opensSpaced_cons, blank]
  | solid c rest solid => rw [squeeze_cons_solid solid, opensSpaced_cons, opensSpaced_cons]

@[simp] theorem squeeze_eq_nil_iff : squeeze t = [] ↔ t = [] := by
  induction t using squeeze_induction with
  | nil => exact Iff.rfl
  | gap c rest blank spaced ih =>
    rw [squeeze_cons_of_opensSpaced blank spaced, ih]
    refine iff_of_false ?_ (List.cons_ne_nil c rest)
    rintro rfl
    simp at spaced
  | space c rest blank solid => simp [squeeze_cons_space blank solid]
  | solid c rest solid => simp [squeeze_cons_solid solid]

theorem mem_squeeze_iff (h : isSpace c = false) : c ∈ squeeze t ↔ c ∈ t := by
  have apart {d : Char} (space : isSpace d = true) : c ≠ d := (ne_of_isSpace space h).symm
  induction t using squeeze_induction with
  | nil => exact Iff.rfl
  | gap d rest blank spaced ih => simp [squeeze_cons_of_opensSpaced blank spaced, ih, apart blank]
  | space d rest blank solid ih =>
    simp [squeeze_cons_space blank solid, ih, apart blank, apart isSpace_space]
  | solid d rest solid ih => simp [squeeze_cons_solid solid, ih]

/-- Squeezing stops at a character that is no white space. -/
theorem squeeze_append_cons (h : isSpace c = false) (a b : Text) :
    squeeze (a ++ c :: b) = squeeze a ++ c :: squeeze b := by
  induction a using squeeze_induction with
  | nil => exact squeeze_cons_solid h b
  | gap d rest blank spaced ih =>
    have joined := (opensSpaced_append_cons h rest b).trans spaced
    rw [List.cons_append, squeeze_cons_of_opensSpaced blank joined, ih,
      squeeze_cons_of_opensSpaced blank spaced]
  | space d rest blank solid ih =>
    have joined := (opensSpaced_append_cons h rest b).trans solid
    rw [List.cons_append, squeeze_cons_space blank joined, ih, squeeze_cons_space blank solid,
      List.cons_append]
  | solid d rest solid ih =>
    rw [List.cons_append, squeeze_cons_solid solid, ih, squeeze_cons_solid solid, List.cons_append]

/-- What ends in no white space is squeezed on its own. -/
theorem squeeze_append {a : Text} (last : ∀ c ∈ a.getLast?, isSpace c = false) (b : Text) :
    squeeze (a ++ b) = squeeze a ++ squeeze b := by
  rcases List.eq_nil_or_concat a with rfl | ⟨a, c, rfl⟩
  · rfl
  · have solid : isSpace c = false := last c (by simp)
    rw [List.concat_eq_append, List.append_assoc, List.singleton_append,
      squeeze_append_cons solid, squeeze_append_cons solid]
    simp [squeeze]

theorem squeeze_of_solid (h : ∀ c ∈ t, isSpace c = false) : squeeze t = t := by
  induction t with
  | nil => rfl
  | cons c t ih =>
    obtain ⟨first, later⟩ := List.forall_mem_cons.1 h
    rw [squeeze_cons_solid first, ih later]

theorem squeeze_append_of_solid {a : Text} (whole : ∀ c ∈ a, isSpace c = false) (b : Text) :
    squeeze (a ++ b) = a ++ squeeze b := by
  rw [squeeze_append fun c last => whole c (List.mem_of_getLast? last), squeeze_of_solid whole]

theorem dropWhile_isSpace_of_not_opensSpaced (h : opensSpaced t = false) :
    t.dropWhile isSpace = t := by
  cases t with
  | nil => rfl
  | cons c t => exact List.dropWhile_cons_of_neg (by simpa using h)

theorem takeWhile_isSpace_of_not_opensSpaced (h : opensSpaced t = false) :
    t.takeWhile isSpace = [] := by
  cases t with
  | nil => rfl
  | cons c t => exact List.takeWhile_cons_of_neg (by simpa using h)

theorem dropWhile_isSpace_squeeze (t : Text) :
    (squeeze t).dropWhile isSpace = squeeze (t.dropWhile isSpace) := by
  induction t using squeeze_induction with
  | nil => rfl
  | gap c rest blank spaced ih =>
    rw [squeeze_cons_of_opensSpaced blank spaced, ih, List.dropWhile_cons_of_pos blank]
  | space c rest blank solid ih =>
    rw [squeeze_cons_space blank solid, List.dropWhile_cons_of_pos isSpace_space, ih,
      List.dropWhile_cons_of_pos blank]
  | solid c rest solid =>
    have opens : opensSpaced (c :: rest) = false := solid
    rw [dropWhile_isSpace_of_not_opensSpaced ((opensSpaced_squeeze _).trans opens),
      dropWhile_isSpace_of_not_opensSpaced opens]

end

/-! ## §2 The words of a squeezed text -/

section
variable {t : Text}

theorem words_append_of_isBlank {gap : Text} (blank : isBlank gap = true) (t : Text) :
    words (gap ++ t) = words t := by
  induction gap with
  | nil => rfl
  | cons c gap ih =>
    rw [isBlank, List.all_cons, Bool.and_eq_true] at blank
    rw [List.cons_append, words_cons_space blank.1, ih blank.2]

theorem words_dropWhile_isSpace (t : Text) : words (t.dropWhile isSpace) = words t := by
  have blank : isBlank (t.takeWhile isSpace) = true := by
    simp [isBlank]
  rw [← words_append_of_isBlank blank (t.dropWhile isSpace), List.takeWhile_append_dropWhile]

theorem words_append_blank {gap : Text} (blank : isBlank gap = true) (t : Text) :
    words (t ++ gap) = words t := by
  cases gap with
  | nil => rw [List.append_nil]
  | cons c gap =>
    rw [isBlank, List.all_cons, Bool.and_eq_true] at blank
    rw [words_append_space blank.1, words_eq_nil_iff.2 blank.2, List.append_nil]

/-- Trimming changes no word. -/
theorem words_trim (t : Text) : words (trim t) = words t := by
  obtain ⟨gap, cut, blank⟩ := exists_trimEndOf_append isSpace (t.dropWhile isSpace)
  calc words (trim t)
      = words (trim t ++ gap) := (words_append_blank (List.all_eq_true.2 blank) _).symm
    _ = words (t.dropWhile isSpace) := congrArg words cut.symm
    _ = words t := words_dropWhile_isSpace t

/-- Where a change keeps to the words of a text, its words are the changed words. -/
theorem words_map {f : Text → Text} (empty : f [] = [])
    (spaced : ∀ c, isSpace c = true → ∀ t u, f (t ++ c :: u) = f t ++ c :: f u)
    (word : ∀ w, IsWord w → IsWord (f w)) (t : Text) : words (f t) = (words t).map f := by
  obtain ⟨piece, outer, rfl, solid, gap⟩ := exists_cut_at_space t
  have first : words (f piece) = (words piece).map f := by
    by_cases none : piece = []
    · rw [none, empty, words_nil, List.map_nil]
    · have isWord : IsWord piece := ⟨none, solid⟩
      rw [words_of_isWord isWord, words_of_isWord (word piece isWord), List.map_singleton]
  cases outer with
  | nil => rw [List.append_nil, first]
  | cons c rest =>
    have space : isSpace c = true := gap c rfl
    have later := words_map empty spaced word rest
    rw [spaced c space, words_append_space space, words_append_space space, first, later,
      List.map_append]
termination_by t.length
decreasing_by
  subst_vars
  simp only [List.length_append, List.length_cons]
  omega

theorem words_lower (t : Text) : words (lower t) = (words t).map lower :=
  words_map rfl (fun _ => lower_append_cons_space) (fun _ => isWord_lower) t

theorem words_append_of_opensSpaced (t : Text) {u : Text} (h : opensSpaced u = true) :
    words (t ++ u) = words t ++ words u := by
  cases u with
  | nil => simp at h
  | cons c u => rw [words_append_space h, words_cons_space h]

@[simp] theorem words_squeeze (t : Text) : words (squeeze t) = words t := by
  induction t using squeeze_induction with
  | nil => rfl
  | gap c rest blank spaced ih =>
    rw [squeeze_cons_of_opensSpaced blank spaced, ih, words_cons_space blank]
  | space c rest blank solid ih =>
    rw [squeeze_cons_space blank solid, words_cons_space isSpace_space, ih, words_cons_space blank]
  | solid c rest solid ih =>
    -- The word that `c` opens ends at the first white space of the rest.
    obtain ⟨piece, outer, rfl, whole, gap⟩ := exists_cut_at_space rest
    have own := squeeze_append_of_solid whole outer
    have apart : ∀ part : Text,
        words (part ++ squeeze outer) = words part ++ words (squeeze outer) ∧
        words (part ++ outer) = words part ++ words outer := by
      intro part
      cases outer with
      | nil => simp [squeeze]
      | cons d outer =>
        have space : isSpace d = true := gap d rfl
        exact ⟨words_append_of_opensSpaced part (by simpa using space),
          words_append_of_opensSpaced part space⟩
    rw [own, (apart piece).1, (apart piece).2, List.append_cancel_left_eq] at ih
    rw [squeeze_cons_solid solid, own, ← List.cons_append, ← List.cons_append, (apart _).1,
      (apart _).2, ih]

end

/-! ## §3 Trimmed texts -/

/-- White space stands at neither end. -/
def IsTrimmed (t : Text) : Prop := opensSpaced t = false ∧ ∀ c ∈ t.getLast?, isSpace c = false

theorem opensSpaced_dropWhile_isSpace (t : Text) : opensSpaced (t.dropWhile isSpace) = false := by
  have first := List.head?_dropWhile_not isSpace t
  cases kept : t.dropWhile isSpace with
  | nil => rfl
  | cons c rest => simpa [kept] using first

theorem opensSpaced_of_initial {part t : Text} (initial : part <+: t) (h : opensSpaced t = false) :
    opensSpaced part = false := by
  cases part with
  | nil => rfl
  | cons c part =>
    obtain ⟨more, rfl⟩ := initial
    exact h

theorem isTrimmed_trim (t : Text) : IsTrimmed (trim t) :=
  ⟨opensSpaced_of_initial (trimEndOf_initial isSpace _) (opensSpaced_dropWhile_isSpace t),
    getLast?_trimOf isSpace t⟩

theorem trim_of_isTrimmed {t : Text} (h : IsTrimmed t) : trim t = t := by
  refine trimOf_eq_self (fun c first => ?_) h.2
  cases t with
  | nil => simp at first
  | cons d rest =>
    obtain rfl : d = c := by simpa using first
    exact h.1

section
variable {t : Text}

/-- The gap that opens a text is one space in the squeezed text. -/
theorem squeeze_cons_of_isSpace {c : Char} (h : isSpace c = true) (t : Text) :
    squeeze (c :: t) = ' ' :: squeeze (t.dropWhile isSpace) := by
  induction t generalizing c with
  | nil => exact squeeze_cons_space h rfl
  | cons d t ih =>
    cases space : isSpace d with
    | true =>
      rw [squeeze_cons_of_opensSpaced h (by exact space), ih space,
        List.dropWhile_cons_of_pos space]
    | false =>
      rw [squeeze_cons_space h (by exact space), List.dropWhile_cons_of_neg (by simp [space])]

/-- The squeezed form of a trimmed text has its words with single spaces between them. -/
theorem squeeze_of_isTrimmed {t : Text} (h : IsTrimmed t) : squeeze t = collapse t := by
  obtain ⟨piece, outer, rfl, whole, gap⟩ := exists_cut_at_space t
  obtain ⟨first, last⟩ := h
  have own := squeeze_append_of_solid whole outer
  cases outer with
  | nil =>
    by_cases none : piece = []
    · subst none
      simp [squeeze, collapse]
    · rw [own, List.append_nil, collapse, words_of_isWord ⟨none, whole⟩, unwords_singleton]
      exact List.append_nil piece
  | cons c rest =>
    have space : isSpace c = true := gap c rfl
    have isWord : IsWord piece := by
      refine ⟨?_, whole⟩
      rintro rfl
      rw [List.nil_append, opensSpaced_cons, space] at first
      exact Bool.noConfusion first
    -- The words behind the gap.
    have later : IsTrimmed (rest.dropWhile isSpace) := by
      refine ⟨opensSpaced_dropWhile_isSpace rest, fun d ends => last d ?_⟩
      exact mem_getLast?_of_suffix ((List.dropWhile_suffix isSpace).trans
        ((List.suffix_cons c rest).trans (List.suffix_append piece _))) d ends
    have more : words rest ≠ [] := by
      intro none
      have blank : ∀ d ∈ c :: rest, isSpace d = true :=
        List.forall_mem_cons.2 ⟨space, List.all_eq_true.1 (words_eq_nil_iff.1 none)⟩
      have ends := List.getLast?_eq_some_getLast (List.cons_ne_nil c rest)
      have solid := last _ (mem_getLast?_of_suffix (List.suffix_append piece _) _ ends)
      rw [blank _ (List.getLast_mem _)] at solid
      exact Bool.noConfusion solid
    have behind := squeeze_of_isTrimmed later
    obtain ⟨w, ws, listed⟩ := List.exists_cons_of_ne_nil more
    rw [own, squeeze_cons_of_isSpace space, behind, collapse, collapse, words_dropWhile_isSpace,
      words_append_space space, words_of_isWord isWord, listed, List.singleton_append,
      unwords_cons_cons]
termination_by t.length
decreasing_by
  subst_vars
  have := (List.dropWhile_sublist isSpace (l := rest)).length_le
  simp only [List.length_append, List.length_cons]
  omega

theorem squeeze_trim (t : Text) : squeeze (trim t) = collapse t := by
  rw [squeeze_of_isTrimmed (isTrimmed_trim t), collapse, words_trim, collapse]

@[simp] theorem collapse_squeeze (t : Text) : collapse (squeeze t) = collapse t := by
  rw [collapse, words_squeeze, collapse]

/-- Where nothing is trimmed off the end, an ending is left. -/
theorem trim_of_getLast? (last : ∀ c ∈ t.getLast?, isSpace c = false) :
    trim t = t.dropWhile isSpace :=
  trimEndOf_eq_self fun c ends =>
    last c (mem_getLast?_of_suffix (List.dropWhile_suffix isSpace) c ends)

/-- Trimming leaves nothing of a text without words. -/
theorem trim_eq_nil_iff : trim t = [] ↔ words t = [] := by
  rw [← squeeze_eq_nil_iff, squeeze_trim, collapse, unwords_eq_nil_iff fun _ => isWord_of_mem_words]

theorem opensSpaced_lower (h : opensSpaced t = false) : opensSpaced (lower t) = false := by
  cases t with
  | nil => rfl
  | cons c rest =>
    obtain ⟨form, cut, kind⟩ := lowerAfter_cons false c rest
    rw [lower, cut]
    rcases kind with rfl | ⟨-, rfl⟩
    · obtain ⟨e, more, shape⟩ := List.exists_cons_of_ne_nil (lowerChar_ne_nil c)
      rw [shape, List.cons_append, opensSpaced_cons, Bool.eq_false_iff]
      intro space
      rw [eq_of_isSpace_of_mem_lowerChar (shape ▸ List.mem_cons_self) space] at space
      exact absurd space (Bool.eq_false_iff.1 h)
    · rw [List.singleton_append, opensSpaced_cons]
      decide

/-- Lower case makes no white space at the ends. -/
theorem isTrimmed_lower (h : IsTrimmed t) : IsTrimmed (lower t) := by
  obtain ⟨outer, piece, rfl, whole, gap⟩ := exists_cut_after_space t
  refine ⟨opensSpaced_lower h.1, ?_⟩
  by_cases none : piece = []
  · -- White space would be last.
    subst none
    rw [List.append_nil] at h ⊢
    rcases List.eq_nil_or_concat outer with rfl | ⟨outer, c, rfl⟩
    · simp [lower, lowerAfter]
    · have solid := h.2 c (by simp)
      rw [gap c (by simp)] at solid
      exact Bool.noConfusion solid
  · have own : IsWord (lower piece) := isWord_lower ⟨none, whole⟩
    have last : lower piece <:+ lower (outer ++ piece) := by
      rcases List.eq_nil_or_concat outer with rfl | ⟨outer, c, rfl⟩
      · exact List.suffix_rfl
      · rw [List.concat_eq_append, List.append_assoc, List.singleton_append,
          lower_append_cons_space (gap c (by simp))]
        exact (List.suffix_cons c _).trans (List.suffix_append _ _)
    have final := List.getLast?_eq_some_getLast own.1
    intro c ends
    have same := (mem_getLast?_of_suffix last _ final).symm.trans ends
    rw [← Option.some.inj same]
    exact own.2 _ (List.getLast_mem own.1)

/-- **Trimmed and in lower case, a text is squeezed to its normal form.** -/
theorem squeeze_lower_trim (t : Text) : squeeze (lower (trim t)) = normalize t := by
  rw [squeeze_of_isTrimmed (isTrimmed_lower (isTrimmed_trim t)), collapse, words_lower, words_trim,
    normalize]

/-- Two layouts of a text are squeezed to one text. -/
theorem squeeze_lower_trim_congr {a b : Text} (same : words a = words b) :
    squeeze (lower (trim a)) = squeeze (lower (trim b)) := by
  rw [squeeze_lower_trim, squeeze_lower_trim, normalize, normalize, same]

end

end AbilityText.Text

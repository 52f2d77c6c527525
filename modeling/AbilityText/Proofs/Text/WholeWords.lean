/-
AbilityText.Proofs.Text.WholeWords — phrases that stand in a text as whole words, and the pieces
between white space that they stand in.

A search for whole words finds a phrase between word boundaries, wherever there is one
(`findWholeFrom_eq_some`, `isSome_findWholeFrom`). The piece
between white space around it may be longer (`exists_mem_words_around`), by stretches that trimming
takes off only at their outer ends (`trimOf_append_append`).
-/
import AbilityText.Proofs.Text.Words
import AbilityText.Text.Letter

namespace AbilityText.Text

/-! ## §1 What a search for whole words finds -/

/-- Does the text end inside a word? For the empty text, `inWord` says so. -/
def endsInWord (inWord : Bool) (t : Text) : Bool := (t.getLast?.map isWordChar).getD inWord

theorem endsInWord_cons (inWord : Bool) (c : Char) (t : Text) :
    endsInWord inWord (c :: t) = endsInWord (isWordChar c) t := by
  unfold endsInWord
  rw [List.getLast?_cons]
  cases t.getLast? <;> rfl

theorem endsInWord_concat (inWord : Bool) (t : Text) (c : Char) :
    endsInWord inWord (t ++ [c]) = isWordChar c := by
  rw [endsInWord, List.getLast?_concat]
  rfl

theorem endsInWord_of_suffix {part t : Text} (suffix : part <:+ t)
    (h : endsInWord false t = false) : endsInWord false part = false := by
  rcases List.eq_nil_or_concat part with rfl | ⟨stretch, c, rfl⟩
  · rfl
  · obtain ⟨more, rfl⟩ := suffix
    rw [List.concat_eq_append, ← List.append_assoc, endsInWord_concat] at h
    rw [List.concat_eq_append, endsInWord_concat, h]

theorem atWordEnd_of_initial {part t : Text} (initial : part <+: t) (h : atWordEnd t = true) :
    atWordEnd part = true := by
  cases part with
  | nil => rfl
  | cons c part =>
    obtain ⟨more, rfl⟩ := initial
    exact h

theorem atWordEnd_space (t : Text) : atWordEnd (' ' :: t) = true := by
  rw [atWordEnd]
  decide

/-- What is found stands in the text, with a word boundary on either side. -/
theorem findWholeFrom_eq_some {phrases : List Text} {phrase tail : Text} :
    ∀ {t : Text} {inWord : Bool}, findWholeFrom phrases inWord t = some (phrase, tail) →
      phrase ∈ phrases ∧ atWordEnd tail = true ∧
        ∃ before, t = before ++ (phrase ++ tail) ∧ endsInWord inWord before = false
  | [], inWord, h => by simp [findWholeFrom] at h
  | c :: rest, inWord, h => by
    rw [findWholeFrom] at h
    split at h
    · next found here =>
      obtain rfl : found = (phrase, tail) := Option.some.inj h
      cases inWord with
      | true => simp at here
      | false =>
        rw [if_neg (by decide)] at here
        obtain ⟨candidate, listed, fits⟩ := List.exists_of_findSome?_eq_some here
        split at fits
        · next left cut =>
          split at fits
          · next wordEnd =>
            obtain ⟨rfl, rfl⟩ : candidate = phrase ∧ left = tail := by simpa using fits
            have same := after?_eq_some cut
            exact ⟨listed, wordEnd, [], same, rfl⟩
          · simp at fits
        · simp at fits
    · obtain ⟨listed, wordEnd, before, same, outside⟩ := findWholeFrom_eq_some h
      refine ⟨listed, wordEnd, c :: before, by rw [same, List.cons_append], ?_⟩
      rw [endsInWord_cons, outside]

/-- A phrase between word boundaries is found, or another place before it. -/
theorem isSome_findWholeFrom {phrase after : Text} (nonempty : phrase ≠ [])
    (right : atWordEnd after = true) : ∀ {before : Text} {inWord : Bool},
      endsInWord inWord before = false →
        (findWholeFrom [phrase] inWord (before ++ (phrase ++ after))).isSome = true
  | [], inWord, left => by
    obtain rfl : inWord = false := left
    have cut := after?_append phrase after
    obtain ⟨c, rest, rfl⟩ := List.exists_cons_of_ne_nil nonempty
    rw [List.cons_append] at cut
    simp [findWholeFrom, cut, right]
  | c :: before, inWord, left => by
    rw [endsInWord_cons] at left
    have later := isSome_findWholeFrom nonempty right left
    rw [List.cons_append, findWholeFrom]
    split
    · rfl
    · exact later

/-- A phrase stands in a text as whole words between what precedes it and what follows. -/
def StandsWhole (phrase t : Text) : Prop :=
  ∃ before after, t = before ++ (phrase ++ after) ∧ endsInWord false before = false ∧
    atWordEnd after = true

theorem standsWhole_of_findWhole? {phrases : List Text} {phrase t : Text}
    (h : findWhole? phrases t = some phrase) : phrase ∈ phrases ∧ StandsWhole phrase t := by
  obtain ⟨⟨found, tail⟩, search, rfl⟩ := Option.map_eq_some_iff.1 h
  obtain ⟨listed, wordEnd, before, same, outside⟩ := findWholeFrom_eq_some search
  exact ⟨listed, before, tail, same, outside, wordEnd⟩

theorem standsWhole_of_hasWhole {phrase t : Text} (h : hasWhole phrase t = true) :
    StandsWhole phrase t := by
  obtain ⟨found, search⟩ := Option.isSome_iff_exists.1 h
  obtain ⟨listed, whole⟩ := standsWhole_of_findWhole? search
  rwa [← List.mem_singleton.1 listed]

theorem hasWhole_of_standsWhole {phrase t : Text} (nonempty : phrase ≠ [])
    (h : StandsWhole phrase t) : hasWhole phrase t = true := by
  obtain ⟨before, after, rfl, left, right⟩ := h
  rw [hasWhole, findWhole?, Option.isSome_map]
  exact isSome_findWholeFrom nonempty right left

/-! ## §2 The piece between white space around a word -/

/-- A piece between white space is a word of the text. -/
theorem mem_words_of_piece {before piece after : Text} (h : IsWord piece)
    (left : ∀ c ∈ before.getLast?, isSpace c = true)
    (right : ∀ c ∈ after.head?, isSpace c = true) :
    piece ∈ words (before ++ (piece ++ after)) := by
  have ends : piece ∈ words (piece ++ after) := by
    cases after with
    | nil => simp [words_of_isWord h]
    | cons c after => simp [words_append_space (right c rfl), words_of_isWord h]
  rcases List.eq_nil_or_concat before with rfl | ⟨before, c, rfl⟩
  · exact ends
  · have space : isSpace c = true := left c (by simp)
    rw [List.concat_eq_append, List.append_assoc, List.singleton_append,
        words_append_space space]
    exact List.mem_append_right _ ends

/-- A text up to its first white space. -/
theorem exists_cut_at_space (t : Text) : ∃ piece outer, t = piece ++ outer ∧
    (∀ c ∈ piece, isSpace c = false) ∧ ∀ c ∈ outer.head?, isSpace c = true := by
  induction t with
  | nil => exact ⟨[], [], rfl, by simp, by simp⟩
  | cons c rest ih =>
    cases space : isSpace c with
    | true => exact ⟨[], c :: rest, rfl, by simp, by simp [space]⟩
    | false =>
      obtain ⟨piece, outer, rfl, solid, spaced⟩ := ih
      exact ⟨c :: piece, outer, rfl, List.forall_mem_cons.2 ⟨space, solid⟩, spaced⟩

/-- A text from its last white space on. -/
theorem exists_cut_after_space (t : Text) : ∃ outer piece, t = outer ++ piece ∧
    (∀ c ∈ piece, isSpace c = false) ∧ ∀ c ∈ outer.getLast?, isSpace c = true := by
  obtain ⟨piece, outer, same, solid, spaced⟩ := exists_cut_at_space t.reverse
  refine ⟨outer.reverse, piece.reverse, ?_, by simpa using solid, by simpa using spaced⟩
  rw [← List.reverse_append, ← same, List.reverse_reverse]

/-- Around every word in a text there is a piece of the text between white space: the word, with the
stretches next to it that hold none. -/
theorem exists_mem_words_around (before after : Text) {w : Text} (h : IsWord w) :
    ∃ left right, left ++ (w ++ right) ∈ words (before ++ (w ++ after)) ∧ left <:+ before ∧
      right <+: after := by
  obtain ⟨outerLeft, left, rfl, solidLeft, spacedLeft⟩ := exists_cut_after_space before
  obtain ⟨right, outerRight, rfl, solidRight, spacedRight⟩ := exists_cut_at_space after
  refine ⟨left, right, ?_, List.suffix_append _ _, List.prefix_append _ _⟩
  have piece : IsWord (left ++ (w ++ right)) := by
    refine ⟨by simp [h.1], fun c hc => ?_⟩
    simp only [List.mem_append] at hc
    rcases hc with hc | hc | hc
    · exact solidLeft c hc
    · exact h.2 c hc
    · exact solidRight c hc
  have member := mem_words_of_piece piece spacedLeft spacedRight
  simpa using member

/-! ## §3 Trimming the piece -/

/-- Trimming stops at a word that is to be kept, from either side. -/
theorem trimOf_append_append {drops : Char → Bool} {w : Text} (nonempty : w ≠ [])
    (kept : ∀ c ∈ w, drops c = false) (left right : Text) :
    trimOf drops (left ++ (w ++ right)) =
      left.dropWhile drops ++ (w ++ trimEndOf drops right) := by
  have stops : ∀ {v : Text}, v ≠ [] → (∀ c ∈ v, drops c = false) → ∀ before after : Text,
      (before ++ (v ++ after)).dropWhile drops = before.dropWhile drops ++ (v ++ after) := by
    intro v hv hkept before after
    obtain ⟨c, v, rfl⟩ := List.exists_cons_of_ne_nil hv
    have first : drops c = false := hkept c (by simp)
    induction before with
    | nil => simp [first]
    | cons d before ih =>
      cases hd : drops d with
      | true => simpa [hd] using ih
      | false => simp [hd]
  have ends := stops (List.reverse_ne_nil_iff.2 nonempty) (by simpa using kept) right.reverse
    (left.dropWhile drops).reverse
  rw [trimOf, stops nonempty kept, trimEndOf, List.reverse_append, List.reverse_append,
      List.append_assoc, ends]
  simp [trimEndOf]

end AbilityText.Text

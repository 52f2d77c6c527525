/-
AbilityText.Proofs.Text.Phrases — what is looked for letter by letter, in two layouts of a text.

A phrase of several words is found in the squeezed text where it stands in any spacing, and in the
text itself only where it stands with single spaces. `KeepsSpacing` says that it always does
(`after?_squeeze`); a single word has no spacing to keep (`keepsSpacing_of_isWord`). So searches
that go through a text letter by letter find the same in a text and in the squeezed text
(`map_searchFrom_squeeze`, `findWhole?_squeeze`).
-/
import Mathlib.Data.List.Infix
import AbilityText.Proofs.Text.Spacing

namespace AbilityText.Text

/-! ## §1 Phrases -/

/-- A text with single spaces between its words, and with none at its ends. -/
structure IsPhrase (phrase : Text) : Prop where
  nonempty : phrase ≠ []
  trimmed : IsTrimmed phrase
  squeezed : squeeze phrase = phrase

-- The checks go over the characters of the text: "for all characters" is decidable too, by going
-- over every character there is.
instance (w : Text) : Decidable (IsWord w) :=
  decidable_of_iff (w ≠ [] ∧ w.all (fun c => !isSpace c) = true) (by simp [IsWord])

instance (t : Text) : Decidable (IsTrimmed t) :=
  decidable_of_iff (opensSpaced t = false ∧ t.getLast?.all (fun c => !isSpace c) = true)
    (by rw [IsTrimmed]; cases t.getLast? <;> simp)

instance (phrase : Text) : Decidable (IsPhrase phrase) :=
  decidable_of_iff (phrase ≠ [] ∧ IsTrimmed phrase ∧ squeeze phrase = phrase)
    ⟨fun h => ⟨h.1, h.2.1, h.2.2⟩, fun h => ⟨h.nonempty, h.trimmed, h.squeezed⟩⟩

/-- Wherever the phrase stands in the text in some spacing, it stands with single spaces. -/
def KeepsSpacing (phrase t : Text) : Prop :=
  ∀ tail, tail <:+ t → phrase <+: squeeze tail → phrase <+: tail

instance (phrase t : Text) : Decidable (KeepsSpacing phrase t) :=
  decidable_of_iff (∀ tail ∈ t.tails, phrase <+: squeeze tail → phrase <+: tail) (by
    simp only [List.mem_tails, KeepsSpacing])

section
variable {phrase t : Text}

theorem KeepsSpacing.of_suffix {tail : Text} (h : KeepsSpacing phrase t) (suffix : tail <:+ t) :
    KeepsSpacing phrase tail := fun part inTail => h part (inTail.trans suffix)

theorem isTrimmed_of_isWord (h : IsWord phrase) : IsTrimmed phrase := by
  obtain ⟨c, rest, rfl⟩ := List.exists_cons_of_ne_nil h.1
  exact ⟨h.2 c List.mem_cons_self, fun d last => h.2 d (List.mem_of_getLast? last)⟩

theorem isPhrase_of_isWord (h : IsWord phrase) : IsPhrase phrase :=
  ⟨h.1, isTrimmed_of_isWord h, squeeze_of_solid h.2⟩

/-- No phrase opens a text that white space opens. -/
theorem after?_cons_space (h : IsPhrase phrase) {c : Char} (space : isSpace c = true) (t : Text) :
    after? phrase (c :: t) = none := by
  obtain ⟨o, rest, rfl⟩ := List.exists_cons_of_ne_nil h.nonempty
  have solid : isSpace o = false := h.trimmed.1
  rw [after?, if_neg (ne_of_isSpace space solid).symm]

/-- What has no white space opens a text when it opens the squeezed text. -/
theorem prefix_of_prefix_squeeze : ∀ {phrase t : Text}, (∀ c ∈ phrase, isSpace c = false) →
    phrase <+: squeeze t → phrase <+: t
  | [], _, _, _ => List.nil_prefix
  | o :: phrase, [], _, opens => by simp [squeeze] at opens
  | o :: phrase, c :: t, h, opens => by
    obtain ⟨solid, later⟩ := List.forall_mem_cons.1 h
    cases space : isSpace c with
    | true =>
      rw [squeeze_cons_of_isSpace space, List.cons_prefix_cons] at opens
      rw [opens.1, isSpace_space] at solid
      exact Bool.noConfusion solid
    | false =>
      rw [squeeze_cons_solid space, List.cons_prefix_cons] at opens
      exact List.cons_prefix_cons.2 ⟨opens.1, prefix_of_prefix_squeeze later opens.2⟩

/-- A single word has no spacing to keep. -/
theorem keepsSpacing_of_isWord (h : IsWord phrase) (t : Text) : KeepsSpacing phrase t :=
  fun _ _ => prefix_of_prefix_squeeze h.2

/-- A phrase that opens a text opens the squeezed text. -/
theorem after?_squeeze_of_eq_some {rest : Text} (isPhrase : IsPhrase phrase)
    (opens : after? phrase t = some rest) : after? phrase (squeeze t) = some (squeeze rest) := by
  rw [after?_eq_some opens, squeeze_append isPhrase.trimmed.2, isPhrase.squeezed, after?_append]

/-- **A phrase that keeps its spacing opens the squeezed text only where it opens the text.** -/
theorem after?_squeeze (isPhrase : IsPhrase phrase) (keeps : KeepsSpacing phrase t) :
    after? phrase (squeeze t) = (after? phrase t).map squeeze := by
  cases found : after? phrase t with
  | some rest => exact after?_squeeze_of_eq_some isPhrase found
  | none =>
    rw [Option.map_none, Option.eq_none_iff_forall_ne_some]
    intro rest opens
    obtain ⟨more, rfl⟩ := keeps t List.suffix_rfl ⟨rest, (after?_eq_some opens).symm⟩
    rw [after?_append] at found
    simp at found

theorem after?_squeeze_of_isWord (h : IsWord phrase) (t : Text) :
    after? phrase (squeeze t) = (after? phrase t).map squeeze :=
  after?_squeeze (isPhrase_of_isWord h) (keepsSpacing_of_isWord h t)

end

/-! ## §2 Searching -/

/-- Two searches through a list agree, up to what is made of their results, where they agree on
every element. -/
theorem map_findSome?_congr {α β γ δ : Type} {f : α → Option β} {f' : α → Option γ} {g : β → δ}
    {g' : γ → δ} {xs : List α} (same : ∀ x ∈ xs, (f x).map g = (f' x).map g') :
    (xs.findSome? f).map g = (xs.findSome? f').map g' := by
  induction xs with
  | nil => rfl
  | cons x xs ih =>
    obtain ⟨first, later⟩ := List.forall_mem_cons.1 same
    rw [List.findSome?_cons, List.findSome?_cons]
    cases found : f x with
    | none =>
      rw [found, Option.map_none, eq_comm, Option.map_eq_none_iff] at first
      rw [first]
      exact ih later
    | some y =>
      rw [found, Option.map_some, eq_comm, Option.map_eq_some_iff] at first
      obtain ⟨z, found', equal⟩ := first
      rw [found']
      exact congrArg some equal.symm

section
variable {p : Char → Bool} (solid : ∀ c, p c = true → isSpace c = false)
include solid

/-- Characters of a kind that has no white space open the squeezed text as they open the text. -/
theorem takeWhile_squeeze (t : Text) : (squeeze t).takeWhile p = t.takeWhile p := by
  have stops : ∀ {c : Char}, isSpace c = true → ¬p c = true := fun space taken => by
    rw [solid _ taken] at space
    exact Bool.noConfusion space
  induction t with
  | nil => rfl
  | cons c t ih =>
    cases space : isSpace c with
    | true =>
      rw [squeeze_cons_of_isSpace space, List.takeWhile_cons_of_neg (stops space),
        List.takeWhile_cons_of_neg (stops isSpace_space)]
    | false => rw [squeeze_cons_solid space, List.takeWhile_cons, List.takeWhile_cons, ih]

theorem dropWhile_squeeze (t : Text) : (squeeze t).dropWhile p = squeeze (t.dropWhile p) := by
  have taken : ∀ c ∈ t.takeWhile p, isSpace c = false :=
    fun c member => solid c (List.mem_takeWhile_imp member)
  have cut : (squeeze t).takeWhile p ++ (squeeze t).dropWhile p =
      t.takeWhile p ++ squeeze (t.dropWhile p) := by
    rw [List.takeWhile_append_dropWhile]
    conv_lhs => rw [← List.takeWhile_append_dropWhile (p := p) (l := t)]
    rw [squeeze_append_of_solid taken]
  rwa [takeWhile_squeeze solid, List.append_cancel_left_eq] at cut

end

/-- What takes in white space takes in the squeezed white space. -/
theorem takeWhile_squeeze_of_isSpace {p : Char → Bool} (spaces : ∀ c, isSpace c = true → p c = true)
    (t : Text) : (squeeze t).takeWhile p = squeeze (t.takeWhile p) := by
  induction t using squeeze_induction with
  | nil => rfl
  | gap c rest blank spaced ih =>
    have opens : opensSpaced (rest.takeWhile p) = true := by
      cases rest with
      | nil => simp at spaced
      | cons d more => rwa [List.takeWhile_cons_of_pos (spaces d spaced)]
    rw [squeeze_cons_of_opensSpaced blank spaced, ih, List.takeWhile_cons_of_pos (spaces c blank),
      squeeze_cons_of_opensSpaced blank opens]
  | space c rest blank solid ih =>
    have opens := opensSpaced_of_initial (List.takeWhile_prefix p) solid
    rw [squeeze_cons_space blank solid, List.takeWhile_cons_of_pos (spaces c blank),
      squeeze_cons_space blank opens, List.takeWhile_cons_of_pos (spaces ' ' isSpace_space), ih]
  | solid c rest solid ih =>
    rw [squeeze_cons_solid solid, List.takeWhile_cons, List.takeWhile_cons, ih]
    split
    · exact (squeeze_cons_solid solid _).symm
    · rfl

/-- The squeezed text is cut at the same mark. -/
theorem cutFirst?_squeeze {mark : Char} (h : isSpace mark = false) (t : Text) :
    cutFirst? mark (squeeze t) =
      (cutFirst? mark t).map fun cut => (squeeze cut.1, squeeze cut.2) := by
  -- What stands before the mark opens as the text does.
  have opens : ∀ {t before after : Text}, cutFirst? mark t = some (before, after) →
      opensSpaced before = opensSpaced t := by
    intro t before after cut
    rw [cutFirst?_eq_some cut, opensSpaced_append_cons h]
  induction t using squeeze_induction with
  | nil => rfl
  | gap c rest blank spaced ih =>
    rw [squeeze_cons_of_opensSpaced blank spaced, ih, cutFirst?, if_neg (ne_of_isSpace blank h)]
    cases cut : cutFirst? mark rest with
    | none => rfl
    | some found => simp [squeeze_cons_of_opensSpaced blank ((opens cut).trans spaced)]
  | space c rest blank solid ih =>
    rw [squeeze_cons_space blank solid, cutFirst?, if_neg (ne_of_isSpace isSpace_space h), ih,
      cutFirst?, if_neg (ne_of_isSpace blank h)]
    cases cut : cutFirst? mark rest with
    | none => rfl
    | some found => simp [squeeze_cons_space blank ((opens cut).trans solid)]
  | solid c rest solid ih =>
    rw [squeeze_cons_solid solid, cutFirst?, cutFirst?, ih]
    split
    · rfl
    · cases cutFirst? mark rest with
      | none => rfl
      | some found => simp [squeeze_cons_solid solid]

/-! ## §3 Searching from word to word -/

/-- White space has no word characters. -/
theorem spaceCodes_apart : ∀ code ∈ spaceCodes,
    (alphabeticRanges.covers code || digitRanges.covers code || joinerRanges.covers code) =
      false := by
  decide +kernel

theorem isWordChar_of_isSpace {c : Char} (h : isSpace c = true) : isWordChar c = false := by
  have apart := spaceCodes_apart _ (toNat_mem_spaceCodes h)
  rw [isWordChar, isAlphabetic, apart, Bool.and_false]

@[simp] theorem atWordEnd_squeeze (t : Text) : atWordEnd (squeeze t) = atWordEnd t := by
  cases t with
  | nil => rfl
  | cons c t =>
    cases space : isSpace c with
    | true =>
      rw [squeeze_cons_of_isSpace space, atWordEnd_space, atWordEnd, isWordChar_of_isSpace space]
      rfl
    | false => rw [squeeze_cons_solid space, atWordEnd, atWordEnd]

/-- What `here` finds at the first place that no word character precedes. -/
def searchFrom {α : Type} (here : Text → Option α) : (inWord : Bool) → Text → Option α
  | _, [] => none
  | inWord, c :: rest =>
    (if inWord then none else here (c :: rest)).or (searchFrom here (isWordChar c) rest)

section
variable {α β : Type} {here : Text → Option α} {g : α → β}
  (solid : ∀ c t, isSpace c = true → here (c :: t) = none)
include solid

theorem searchFrom_cons_space {c : Char} (h : isSpace c = true) (inWord : Bool) (t : Text) :
    searchFrom here inWord (c :: t) = searchFrom here false t := by
  rw [searchFrom, solid c t h, ite_self, isWordChar_of_isSpace h, Option.none_or]

theorem searchFrom_of_opensSpaced {t : Text} (h : opensSpaced t = true) (inWord : Bool) :
    searchFrom here inWord t = searchFrom here false t := by
  cases t with
  | nil => rfl
  | cons c t => rw [searchFrom_cons_space solid h, searchFrom_cons_space solid h]

/-- **A search for what starts with no white space finds in the squeezed text what it finds in the
text**, as far as it does so at every place. -/
theorem map_searchFrom_squeeze {t : Text}
    (same : ∀ tail, tail <:+ t → (here (squeeze tail)).map g = (here tail).map g) (inWord : Bool) :
    (searchFrom here inWord (squeeze t)).map g = (searchFrom here inWord t).map g := by
  induction t using squeeze_induction generalizing inWord with
  | nil => rfl
  | gap c rest blank spaced ih =>
    rw [squeeze_cons_of_opensSpaced blank spaced,
      searchFrom_of_opensSpaced solid (by simpa using spaced), searchFrom_cons_space solid blank]
    exact ih (fun tail inRest => same tail (inRest.trans (List.suffix_cons c rest))) false
  | space c rest blank first ih =>
    rw [squeeze_cons_space blank first, searchFrom_cons_space solid isSpace_space,
      searchFrom_cons_space solid blank]
    exact ih (fun tail inRest => same tail (inRest.trans (List.suffix_cons c rest))) false
  | solid c rest first ih =>
    have own := same (c :: rest) List.suffix_rfl
    have later := ih (fun tail inRest => same tail (inRest.trans (List.suffix_cons c rest)))
    rw [squeeze_cons_solid first] at own ⊢
    rw [searchFrom, searchFrom, Option.map_or, Option.map_or, later, apply_ite (Option.map g),
      apply_ite (Option.map g), own]

end

/-- The first of the phrases that opens the text and ends at the end of a word. -/
def openingPhrase? (phrases : List Text) (t : Text) : Option (Text × Text) :=
  phrases.findSome? fun phrase =>
    match after? phrase t with
    | some tail => if atWordEnd tail then some (phrase, tail) else none
    | none => none

theorem findWholeFrom_eq_searchFrom (phrases : List Text) (inWord : Bool) (t : Text) :
    findWholeFrom phrases inWord t = searchFrom (openingPhrase? phrases) inWord t := by
  induction t generalizing inWord with
  | nil => rfl
  | cons c t ih =>
    rw [findWholeFrom, searchFrom, ih]
    cases inWord with
    | true => rfl
    | false =>
      rw [if_neg (by decide), if_neg (by decide)]
      split
      · next result opens =>
        have found : openingPhrase? phrases (c :: t) = some result := opens
        rw [found, Option.some_or]
      · next closed =>
        have missed : openingPhrase? phrases (c :: t) = none := closed
        rw [missed, Option.none_or]

/-- Phrases that keep their spacing are found in the squeezed text where they are in the text. -/
theorem findWhole?_squeeze {phrases : List Text} {t : Text}
    (isPhrase : ∀ phrase ∈ phrases, IsPhrase phrase)
    (keeps : ∀ phrase ∈ phrases, KeepsSpacing phrase t) :
    findWhole? phrases (squeeze t) = findWhole? phrases t := by
  rw [findWhole?, findWhole?, findWholeFrom_eq_searchFrom, findWholeFrom_eq_searchFrom]
  refine map_searchFrom_squeeze ?_ ?_ false
  · intro c t space
    rw [openingPhrase?, List.findSome?_eq_none_iff]
    intro phrase member
    rw [after?_cons_space (isPhrase phrase member) space]
  · intro tail inText
    refine map_findSome?_congr fun phrase member => ?_
    rw [after?_squeeze (isPhrase phrase member) ((keeps phrase member).of_suffix inText)]
    cases after? phrase tail with
    | none => rfl
    | some rest =>
      simp only [Option.map_some, atWordEnd_squeeze]
      split <;> rfl

theorem hasWhole_squeeze {word : Text} (h : IsWord word) (t : Text) :
    hasWhole word (squeeze t) = hasWhole word t := by
  rw [hasWhole, hasWhole, findWhole?_squeeze]
  · exact fun phrase member => List.mem_singleton.1 member ▸ isPhrase_of_isWord h
  · exact fun phrase member => List.mem_singleton.1 member ▸ keepsSpacing_of_isWord h t

end AbilityText.Text

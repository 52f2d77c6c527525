/-
AbilityText.Proofs.Clause — the words of a clause, and the clauses of joined texts.

The words of a clause are words in lower case (`isLowerWord_of_mem_words`). So a phrase of a clause
is in normal form, and its words are those that it was made of.

A break between two texts keeps their clauses apart (`ofText_append_break`). It can lengthen a run
of breaks at the end of the first text, and take in those that open the second, but there is nothing
between such breaks. It is no white space, so it cannot complete a separating "then" on either side.
-/
import Mathlib.Data.List.TakeWhile
import AbilityText.Clause
import AbilityText.Proofs.Text.Normal

namespace AbilityText.Clause

open Text (IsWord IsLowerWord)

/-! ## §1 Words of a clause -/

/-- What precedes an ending is the start of the text. -/
theorem prefix_of_before? {ending t stem : Text} (h : Text.before? ending t = some stem) :
    stem <+: t := ⟨ending, (Text.before?_eq_some h).symm⟩

/-- A bare word is the lower case of the start of the word, once the punctuation that opens and ends
the word is off. -/
theorem bareWord_eq_lower (raw : Text) :
    ∃ stretch : Text, stretch <+: Text.trimOf (fun c => !Text.isAlphanumeric c) raw ∧
      bareWord raw = Text.lower stretch := by
  generalize whole : Text.trimOf (fun c => !Text.isAlphanumeric c) raw = word
  refine ⟨_, (Text.trimEndOf_initial isApostrophe _).trans ?_, by rw [bareWord, whole]⟩
  -- The owner is the trimmed word, or what stands before one of two possessive endings.
  cases straight : Text.before? "'s" word with
  | some stem => exact prefix_of_before? straight
  | none =>
    cases typographic : Text.before? "\u2019s" word with
    | some stem => exact prefix_of_before? typographic
    | none => exact List.prefix_rfl

theorem isLowerWord_of_mem_words {clause w : Text} (h : w ∈ words clause) : IsLowerWord w := by
  obtain ⟨member, nonempty⟩ := List.mem_filter.1 h
  obtain ⟨raw, hraw, rfl⟩ := List.mem_map.1 member
  obtain ⟨stretch, start, same⟩ := bareWord_eq_lower raw
  have inRaw := start.sublist.trans (Text.trimOf_sublist _ raw)
  rw [same] at nonempty ⊢
  apply Text.isLowerWord_lower
  refine ⟨?_, fun c hc => (Text.isWord_of_mem_words hraw).2 c (inRaw.subset hc)⟩
  rintro rfl
  simp [Text.lower_eq_nil_iff.2 rfl] at nonempty

/-- Only a word with an "s" in it has singular forms. -/
theorem singulars_eq_nil {word : Text} (h : 's' ∉ word) : singulars word = [] := by
  have ending : ∀ ending : Text, 's' ∈ ending → Text.before? ending word = none := by
    intro ending member
    rw [Option.eq_none_iff_forall_ne_some]
    intro stem found
    rw [Text.before?_eq_some found] at h
    exact h (List.mem_append_right stem member)
  simp only [singulars, ending "s" (by decide), ending "es" (by decide), ending "ies" (by decide)]
  rfl

/-- What is left of a word is a word, if it is not empty. -/
theorem isWord_of_before? {ending word stem : Text} (h : IsWord word)
    (cut : Text.before? ending word = some stem) (nonempty : stem ≠ []) : IsWord stem :=
  ⟨nonempty, fun c hc => h.2 c ((prefix_of_before? cut).subset hc)⟩

/-- The singular forms of a word are words. -/
theorem isWord_of_mem_singulars {word form : Text} (h : IsWord word)
    (singular : form ∈ singulars word) : IsWord form := by
  simp only [singulars, List.mem_append, Option.mem_toList, Option.map_eq_some_iff,
    Option.filter_eq_some_iff, Bool.and_eq_true, Bool.not_eq_true', List.isEmpty_eq_false_iff]
    at singular
  rcases singular with (⟨cut, nonempty, -⟩ | ⟨cut, nonempty⟩) | ⟨stem, ⟨cut, nonempty⟩, rfl⟩
  · exact isWord_of_before? h cut nonempty
  · exact isWord_of_before? h cut nonempty
  · refine ⟨by simp, fun c hc => ?_⟩
    rcases List.mem_append.1 hc with inStem | last
    · exact (isWord_of_before? h cut nonempty).2 c inStem
    · rw [List.mem_singleton.1 last]
      decide

/-! ## §2 Separators in joined texts -/

theorem isSpace_of_isBreak {c : Char} (h : isBreak c = true) : Text.isSpace c = false := by
  simp only [isBreak, Bool.or_eq_true, decide_eq_true_eq] at h
  rcases h with ((((rfl | rfl) | rfl) | rfl) | rfl) | rfl <;> decide

theorem not_mem_then_of_isBreak {c : Char} (h : isBreak c = true) : c ∉ ("then" : Text) := by
  simp only [isBreak, Bool.or_eq_true, decide_eq_true_eq] at h
  rcases h with ((((rfl | rfl) | rfl) | rfl) | rfl) | rfl <;> decide

section
variable {c : Char}

theorem afterSpace?_append (hc : Text.isSpace c = false) (a b : Text) :
    afterSpace? (a ++ c :: b) = (afterSpace? a).map (· ++ c :: b) := by
  cases a with
  | nil => simp [afterSpace?, hc]
  | cons x a =>
    simp only [List.cons_append, afterSpace?]
    split
    · rw [Text.dropWhile_append_cons hc, Option.map_some]
    · rfl

/-- A break does not complete a separating "then". -/
theorem afterThen?_append (hc : isBreak c = true) (a b : Text) :
    ((afterSpace? (a ++ c :: b)).bind (Text.after? "then")).bind afterSpace? =
      (((afterSpace? a).bind (Text.after? "then")).bind afterSpace?).map (· ++ c :: b) := by
  rw [afterSpace?_append (isSpace_of_isBreak hc)]
  cases afterSpace? a with
  | none => rfl
  | some rest =>
    simp only [Option.map_some, Option.bind_some]
    rw [Text.after?_append_of_not_mem (not_mem_then_of_isBreak hc)]
    cases Text.after? "then" rest with
    | none => rfl
    | some rest =>
      simp only [Option.map_some, Option.bind_some]
      exact afterSpace?_append (isSpace_of_isBreak hc) rest b

/-- The separator of the first text stays as it is, unless it is a run of breaks that reaches the
joint. -/
theorem separatorLength_append {a : Text} (hc : isBreak c = true)
    (breaks : ¬∀ x ∈ a, isBreak x = true) (b : Text) :
    separatorLength (a ++ c :: b) = separatorLength a := by
  have run : (a ++ c :: b).takeWhile isBreak = a.takeWhile isBreak := by
    rw [List.takeWhile_append, if_neg]
    intro whole
    have same : a.takeWhile isBreak = a :=
      (List.takeWhile_prefix isBreak).eq_of_length whole
    exact breaks (List.takeWhile_eq_self_iff.1 same)
  rw [separatorLength, separatorLength, run, afterThen?_append hc]
  cases a.takeWhile isBreak with
  | cons first more => rfl
  | nil =>
    cases ((afterSpace? a).bind (Text.after? "then")).bind afterSpace? with
    | none => rfl
    | some rest => simp only [Option.map_some, List.length_append, Nat.add_sub_add_right]

/-- A separator lies in the text that it opens. -/
theorem separatorLength_le (t : Text) : separatorLength t ≤ t.length := by
  unfold separatorLength
  split
  · split
    · exact Nat.sub_le _ _
    · exact Nat.zero_le _
  · exact (List.takeWhile_prefix isBreak).length_le

/-! ## §3 Clauses of joined texts -/

/-- What is still part of a separator is passed over. -/
theorem stretches_append (passed t : Text) :
    stretches passed.length (passed ++ t) = stretches 0 t := by
  induction passed with
  | nil => rfl
  | cons x passed ih => rw [List.length_cons, List.cons_append, stretches, ih]

/-- A text that opens with a break has an empty stretch before the run of breaks. -/
theorem stretches_of_isBreak (hc : isBreak c = true) (t : Text) :
    stretches 0 (c :: t) = [] :: stretches 0 (t.dropWhile isBreak) := by
  have length : separatorLength (c :: t) = (t.takeWhile isBreak).length + 1 := by
    rw [separatorLength, List.takeWhile_cons_of_pos hc]
    rfl
  have passed := stretches_append (t.takeWhile isBreak) (t.dropWhile isBreak)
  rw [List.takeWhile_append_dropWhile] at passed
  simp only [stretches, length, passed]

/-- The break ends a stretch of the first text, with the run of breaks that it stands in. Where the
first text ends in breaks, it has an empty stretch behind them that the joined text has not. -/
theorem exists_stretches_append (hc : isBreak c = true) (b : Text) :
    ∀ (skip : Nat) (a : Text), skip ≤ a.length → ∃ stretch more,
      stretches skip (a ++ c :: b) = stretch :: more ++ stretches 0 (b.dropWhile isBreak) ∧
        (stretches skip a = stretch :: more ∨ stretches skip a = stretch :: more ++ [[]])
  | 0, [], _ => ⟨[], [], stretches_of_isBreak hc b, .inl rfl⟩
  | skip + 1, x :: a, inside => by
    simp only [List.cons_append, stretches]
    exact exists_stretches_append hc b skip a (by simpa using inside)
  | 0, x :: a, _ => by
    by_cases breaks : ∀ y ∈ x :: a, isBreak y = true
    · -- One run of breaks reaches from the first text into the second.
      obtain ⟨hx, breaks⟩ := List.forall_mem_cons.1 breaks
      refine ⟨[], [], ?_, .inr ?_⟩
      · rw [List.cons_append, stretches_of_isBreak hx, List.dropWhile_append_of_pos breaks,
            List.dropWhile_cons_of_pos hc]
        rfl
      · rw [stretches_of_isBreak hx, List.dropWhile_eq_nil_iff.2 breaks]
        rfl
    · have same := separatorLength_append hc breaks b
      have bound := separatorLength_le (x :: a)
      rw [List.cons_append] at same ⊢
      simp only [stretches, same]
      split
      · -- The clause goes on.
        obtain ⟨stretch, more, joined, alone⟩ := exists_stretches_append hc b 0 a (Nat.zero_le _)
        refine ⟨x :: stretch, more, by rw [joined]; rfl, ?_⟩
        rcases alone with alone | alone
        · exact .inl (by rw [alone])
        · exact .inr (by rw [alone]; rfl)
      · next n separator =>
        have inside : n ≤ a.length := by
          rw [separator, List.length_cons] at bound
          omega
        obtain ⟨stretch, more, joined, alone⟩ := exists_stretches_append hc b n a inside
        refine ⟨[], stretch :: more, by rw [joined]; rfl, ?_⟩
        rcases alone with alone | alone
        · exact .inl (by rw [alone])
        · exact .inr (by rw [alone]; rfl)

/-- Breaks that open a text open no clause. -/
theorem ofText_dropWhile_isBreak (t : Text) : ofText (t.dropWhile isBreak) = ofText t := by
  cases t with
  | nil => rfl
  | cons x t =>
    by_cases hx : isBreak x = true
    · rw [ofText, ofText, stretches_of_isBreak hx, List.dropWhile_cons_of_pos hx]
      rfl
    · rw [List.dropWhile_cons_of_neg hx]

/-- **A break keeps the clauses of two texts apart.** -/
theorem ofText_append_break (hc : isBreak c = true) (a b : Text) :
    ofText (a ++ c :: b) = ofText a ++ ofText b := by
  obtain ⟨stretch, more, joined, alone⟩ := exists_stretches_append hc b 0 a (Nat.zero_le _)
  rw [← ofText_dropWhile_isBreak b]
  simp only [ofText, joined, List.map_append, List.filter_append]
  rcases alone with alone | alone
  · rw [alone]
  · rw [alone, List.map_append, List.filter_append]
    have blank : ([[]].map Text.trim).filter (fun clause => !clause.isEmpty) = [] := rfl
    rw [blank, List.append_nil]

end

end AbilityText.Clause

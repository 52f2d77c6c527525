/-
AbilityText.Proofs.Clause.Characters — which characters the clauses of a text and their words hold.

A clause holds characters of the text only, and no punctuation that ends a clause (`of_mem_ofText`).
Its words are in lower case, so a character of a word need not stand in the clause; but one that is
no lower-case form of another does (`mem_clause_of_mem_words`). And no word is punctuation only: it
opens with a letter or a number (`exists_alphanumeric_of_mem_words`), so a plus in front of a number
is never part of the word (`isClauseWord_of_mem_words`).
-/
import AbilityText.Proofs.Clause.Spacing

namespace AbilityText.Clause

variable {c : Char}

/-! ## §1 Clauses -/

/-- A break opens a separator. -/
theorem isBreak_of_separatorLength {t : Text} (h : separatorLength (c :: t) = 0) :
    isBreak c = false := by
  refine Bool.eq_false_iff.2 fun isBreak => ?_
  rw [separatorLength, List.takeWhile_cons_of_pos isBreak] at h
  simp at h

/-- A stretch holds characters of the text, and no breaks. -/
theorem of_mem_stretches : ∀ {skip : Nat} {t stretch : Text}, stretch ∈ stretches skip t →
    c ∈ stretch → c ∈ t ∧ isBreak c = false
  | _, [], stretch, listed, member => by
    rw [stretches, List.mem_singleton] at listed
    rw [listed] at member
    exact absurd member List.not_mem_nil
  | skip + 1, x :: rest, stretch, listed, member => by
    rw [stretches] at listed
    exact (of_mem_stretches listed member).imp_left (List.mem_cons_of_mem x)
  | 0, x :: rest, stretch, listed, member => by
    rw [stretches] at listed
    split at listed
    · next goesOn =>
      -- No separator opens the text here, so its first character is no break.
      have own : x ∈ x :: rest ∧ isBreak x = false :=
        ⟨List.mem_cons_self, isBreak_of_separatorLength goesOn⟩
      have later : ∀ {other : Text}, other ∈ stretches 0 rest → c ∈ other →
          c ∈ x :: rest ∧ isBreak c = false := fun listed member =>
        (of_mem_stretches listed member).imp_left (List.mem_cons_of_mem x)
      split at listed
      · rw [List.mem_singleton.1 listed, List.mem_singleton] at member
        rwa [member]
      · next first more split =>
        rcases List.mem_cons.1 listed with rfl | listed
        · rcases List.mem_cons.1 member with rfl | member
          · exact own
          · exact later (split ▸ List.mem_cons_self) member
        · exact later (split ▸ List.mem_cons_of_mem first listed) member
    · rcases List.mem_cons.1 listed with rfl | listed
      · exact absurd member List.not_mem_nil
      · exact (of_mem_stretches listed member).imp_left (List.mem_cons_of_mem x)

/-- **A clause holds characters of the text, and no breaks.** -/
theorem of_mem_ofText {t clause : Text} (listed : clause ∈ ofText t) (member : c ∈ clause) :
    c ∈ t ∧ isBreak c = false := by
  obtain ⟨stretch, inText, rfl⟩ := List.mem_map.1 (List.mem_filter.1 listed).1
  exact of_mem_stretches inText ((Text.trimOf_sublist _ stretch).subset member)

/-! ## §2 Words -/

/-- Reading plurals takes characters away only. -/
theorem readPlurals_sublist (t : Text) : List.Sublist (readPlurals t) t := by
  fun_induction readPlurals t with
  | case1 => exact .slnil
  | case2 rest ih => exact ((ih.cons ')').cons_cons 's').cons '('
  | case3 c rest _ ih => exact ih.cons_cons c

section
variable {clause w : Text}

/-- A word of a clause is the lower case of a stretch of the clause that opens with a letter or a
number. -/
theorem exists_stretch_of_mem_words (h : w ∈ words clause) : ∃ stretch : Text,
    (∀ c ∈ stretch, c ∈ clause) ∧ (∀ c ∈ stretch.head?, Text.isAlphanumeric c = true) ∧
      w = Text.lower stretch := by
  obtain ⟨raw, inClause, rfl⟩ := List.mem_map.1 (List.mem_filter.1 h).1
  obtain ⟨stretch, start, same⟩ := bareWord_eq_lower raw
  have opened : stretch <+: raw.dropWhile fun c => !Text.isAlphanumeric c :=
    start.trans (Text.trimEndOf_initial _ _)
  refine ⟨stretch, fun c member => ?_, fun c first => ?_, same⟩
  · have inRaw := (opened.sublist.trans (List.dropWhile_sublist _)).subset member
    exact (readPlurals_sublist clause).subset (Text.mem_of_mem_words inClause inRaw)
  · obtain ⟨more, split⟩ := opened
    have kept := List.head?_dropWhile_not (fun c => !Text.isAlphanumeric c) raw
    rw [← split, List.head?_append, Option.mem_def.1 first] at kept
    simpa using kept

/-- **A character of a word that is no lower-case form stands in the clause.** -/
theorem mem_clause_of_mem_words (h : w ∈ words clause) (member : c ∈ w) (range : Nat × Nat)
    (inRange : range ∈ Text.notLowerForms) (low : range.1 ≤ c.toNat) (high : c.toNat ≤ range.2) :
    c ∈ clause := by
  obtain ⟨stretch, inClause, -, rfl⟩ := exists_stretch_of_mem_words h
  exact inClause c (Text.mem_of_mem_lower member range inRange low high)

/-- **A word opens with the lower-case form of a letter or of a number.** -/
theorem exists_alphanumeric_of_mem_words (h : w ∈ words clause) :
    ∃ a e, Text.isAlphanumeric a = true ∧ w.head? = some e ∧
      (e ∈ Text.lowerChar a ∨ e = '\u03C2') := by
  have nonempty := (isLowerWord_of_mem_words h).1.1
  obtain ⟨stretch, -, opens, rfl⟩ := exists_stretch_of_mem_words h
  cases stretch with
  | nil => exact absurd rfl nonempty
  | cons a rest =>
    obtain ⟨e, first, form⟩ := Text.exists_head?_lower_cons a rest
    exact ⟨a, e, opens a rfl, first, form⟩

/-- A word as a clause gives it: it is in lower case, and no plus opens it. -/
structure IsClauseWord (w : Text) : Prop where
  lower : Text.IsLowerWord w
  unsigned : w.head? ≠ some '+'

/-- **No plus opens a word of a clause.** -/
theorem isClauseWord_of_mem_words (h : w ∈ words clause) : IsClauseWord w := by
  refine ⟨isLowerWord_of_mem_words h, fun plus => ?_⟩
  obtain ⟨a, e, letter, first, form⟩ := exists_alphanumeric_of_mem_words h
  obtain rfl : '+' = e := Option.some.inj (plus.symm.trans first)
  rcases form with form | final
  · rw [Text.eq_of_plus_mem_lowerChar form] at letter
    exact absurd letter (by decide)
  · exact absurd final (by decide)

end

end AbilityText.Clause

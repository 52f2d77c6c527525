/-
AbilityText.Proofs.Text.Lower — what lower case does to a text, character by character.

Every character of a text in lower case is settled: lower case maps it to itself wherever it stands
(`settled_of_mem_lower`). So lower case is idempotent (`lower_lower`), and it neither makes nor
removes white space (`isSpace_of_mem_lower`) or a colon (`count_colon_lower`).

All of it rests on two checks of the table of case runs (§2). They compare runs with runs, not code
points with code points, which is what keeps them small. White space has few code points, so these
are checked one by one (§5): what stands on either side of white space has its lower case to itself
(`lower_append_cons_space`). So are the ASCII capitals (§6): a text has the lower case of the text
with small letters for them (`lower_map_toLower`).
-/
import AbilityText.Proofs.Text.Words
import AbilityText.Text.Case

namespace AbilityText.Text

/-! ## §1 Runs and their images -/

namespace CaseRun

/-- The image of the last code point of a run. -/
def lastImage (run : CaseRun) : Nat := run.image + (run.last - run.first)

/-- Is no image of the run in a closed range of code points? -/
def missesRange (run : CaseRun) (range : Nat × Nat) : Bool :=
  Nat.blt run.lastImage range.1 || Nat.blt range.2 run.image

/-- Is no image of the run mapped by another run? The two lie apart, or they interleave: every
second code point is an image of the one, and those between are mapped by the other. -/
def missesRun (run other : CaseRun) : Bool :=
  run.missesRange (other.first, other.last) ||
    ((Nat.beq run.step 2 || Nat.beq run.first run.last) && Nat.beq other.step 2 &&
      Nat.beq ((run.image + other.first) % 2) 1)

theorem missesRange_iff {run : CaseRun} {range : Nat × Nat} :
    run.missesRange range = true ↔
      run.image + (run.last - run.first) < range.1 ∨ range.2 < run.image := by
  rw [missesRange, Bool.or_eq_true, Nat.blt_eq, Nat.blt_eq, lastImage]

theorem missesRun_iff {run other : CaseRun} :
    run.missesRun other = true ↔
      (run.image + (run.last - run.first) < other.first ∨ other.last < run.image) ∨
      ((run.step = 2 ∨ run.first = run.last) ∧ other.step = 2) ∧
        (run.image + other.first) % 2 = 1 := by
  simp only [missesRun, Bool.or_eq_true, Bool.and_eq_true, missesRange_iff, Nat.beq_eq]

theorem image?_eq_some {runs : List CaseRun} {code n : Nat} (h : image? runs code = some n) :
    ∃ run ∈ runs, run.first ≤ code ∧ code ≤ run.last ∧ (code - run.first) % run.step = 0 ∧
      n = run.image + (code - run.first) := by
  induction runs with
  | nil => simp [image?] at h
  | cons run later ih =>
    simp only [image?] at h
    split at h
    · simp at h
    · split at h
      · next above inside =>
        simp only [Bool.and_eq_true, decide_eq_true_eq] at inside
        exact ⟨run, by simp, by omega, inside.1, inside.2, by simpa using h.symm⟩
      · obtain ⟨found, member, rest⟩ := ih h
        exact ⟨found, List.mem_cons_of_mem run member, rest⟩

/-- A range that every run misses holds no image. -/
theorem not_mem_range_of_image {runs : List CaseRun} {range : Nat × Nat} {code n : Nat}
    (misses : ∀ run ∈ runs, run.missesRange range = true) (h : image? runs code = some n) :
    n < range.1 ∨ range.2 < n := by
  obtain ⟨run, member, low, high, -, rfl⟩ := image?_eq_some h
  have := missesRange_iff.1 (misses run member)
  omega

/-- Where every run misses every run, no image is mapped any further. -/
theorem image?_image_eq_none {runs : List CaseRun} {code n : Nat}
    (misses : ∀ run ∈ runs, ∀ other ∈ runs, run.missesRun other = true)
    (h : image? runs code = some n) : image? runs n = none := by
  obtain ⟨run, member, low, high, step, rfl⟩ := image?_eq_some h
  cases further : image? runs (run.image + (code - run.first)) with
  | none => rfl
  | some m =>
    obtain ⟨other, memberOther, lowOther, highOther, stepOther, -⟩ := image?_eq_some further
    rcases missesRun_iff.1 (misses run member other memberOther) with
      apart | ⟨⟨even, evenOther⟩, odd⟩
    · omega
    · -- Images and mapped code points have different parities.
      rw [evenOther] at stepOther
      rcases even with even | single
      · rw [even] at step
        omega
      · omega

end CaseRun

/-! ## §2 What the table of lower-case forms says -/

/-- The table maps no lower-case form any further. -/
theorem lowerRuns_miss_lowerRuns :
    ∀ run ∈ lowerRuns, ∀ other ∈ lowerRuns, run.missesRun other = true := by
  have : (lowerRuns.all fun run => lowerRuns.all fun other => run.missesRun other) = true := by
    decide +kernel
  simpa [List.all_eq_true] using this

/-- What no lower-case form is: ASCII apart from the small letters, white space, the dotted capital
I and the surrogates. -/
def notLowerForms : CodeRanges :=
  (0, 0x60) :: (0x7B, 0x7F) :: (0x130, 0x130) :: (0xD800, 0xDFFF) :: whiteSpaceRanges

theorem lowerRuns_miss_notLowerForms :
    ∀ range ∈ notLowerForms, ∀ run ∈ lowerRuns, run.missesRange range = true := by
  have : (notLowerForms.all fun range => lowerRuns.all fun run =>
      run.missesRange range) = true := by
    decide +kernel
  simpa [List.all_eq_true] using this

theorem lowerRuns_below : ∀ run ∈ lowerRuns, Nat.blt run.lastImage 0x110000 = true := by
  have : (lowerRuns.all fun run => Nat.blt run.lastImage 0x110000) = true := by decide +kernel
  simpa [List.all_eq_true] using this

theorem not_lowerForm {code n : Nat} (h : CaseRun.image? lowerRuns code = some n) :
    ∀ range ∈ notLowerForms, n < range.1 ∨ range.2 < n := fun range member =>
  CaseRun.not_mem_range_of_image (lowerRuns_miss_notLowerForms range member) h

/-- A lower-case form is a character, so making a character of it keeps the code point. -/
theorem toNat_lowerForm {code n : Nat} (h : CaseRun.image? lowerRuns code = some n) :
    (Char.ofNat n).toNat = n := by
  have below : n < 0x110000 := by
    obtain ⟨run, member, low, high, -, rfl⟩ := CaseRun.image?_eq_some h
    have := lowerRuns_below run member
    rw [Nat.blt_eq, CaseRun.lastImage] at this
    omega
  have surrogate : n < 0xD800 ∨ 0xDFFF < n := not_lowerForm h (0xD800, 0xDFFF) (by decide)
  have valid : n.isValidChar := by
    unfold Nat.isValidChar
    omega
  rw [Char.ofNat, dif_pos valid]
  rfl

/-! ## §3 Single characters -/

/-- A character that lower case maps to itself wherever it stands. -/
def Settled (c : Char) : Prop := lowerChar c = [c] ∧ c ≠ '\u03A3'

theorem settled_of_no_image {c : Char} (h : CaseRun.image? lowerRuns c.toNat = none)
    (hc : c ≠ '\u0130') : Settled c := by
  refine ⟨by simp [lowerChar, hc, h], ?_⟩
  rintro rfl
  have : CaseRun.image? lowerRuns 0x3A3 ≠ none := by decide
  exact this h

theorem settled_lowerForm {code n : Nat} (h : CaseRun.image? lowerRuns code = some n) :
    Settled (Char.ofNat n) := by
  have same := toNat_lowerForm h
  apply settled_of_no_image
  · rw [same]
    exact CaseRun.image?_image_eq_none lowerRuns_miss_lowerRuns h
  · intro dotted
    have : n = 0x130 := by rw [← same, dotted]; rfl
    have := not_lowerForm h (0x130, 0x130) (by decide)
    omega

/-- The characters that stand in the lower-case form of a character. -/
theorem mem_lowerChar {c e : Char} (h : e ∈ lowerChar c) :
    e = 'i' ∨ e = '\u0307' ∨ (∃ n, CaseRun.image? lowerRuns c.toNat = some n ∧ e = Char.ofNat n) ∨
      e = c ∧ Settled c := by
  unfold lowerChar at h
  split at h
  · simp only [List.mem_cons, List.not_mem_nil, or_false] at h
    exact h.imp_right .inl
  · next plain =>
    split at h
    · next n image => exact .inr (.inr (.inl ⟨n, image, by simpa using h⟩))
    · next none =>
      exact .inr (.inr (.inr ⟨by simpa using h, settled_of_no_image none plain⟩))

theorem settled_of_mem_lowerChar {c e : Char} (h : e ∈ lowerChar c) : Settled e := by
  rcases mem_lowerChar h with rfl | rfl | ⟨n, image, rfl⟩ | ⟨rfl, settled⟩
  · exact settled_of_no_image (by decide) (by decide)
  · exact settled_of_no_image (by decide) (by decide)
  · exact settled_lowerForm image
  · exact settled

/-- What is no lower-case form comes from itself only. -/
theorem eq_of_mem_lowerChar {c e : Char} (h : e ∈ lowerChar c) (range : Nat × Nat)
    (member : range ∈ notLowerForms) (low : range.1 ≤ e.toNat) (high : e.toNat ≤ range.2) :
    e = c := by
  have outside : ∀ range ∈ notLowerForms, ∀ code ∈ [0x69, 0x307],
      code < range.1 ∨ range.2 < code := by decide
  rcases mem_lowerChar h with rfl | rfl | ⟨n, image, rfl⟩ | ⟨rfl, -⟩
  · have := outside range member 0x69 (by simp)
    simp only [Char.reduceToNat] at low high
    omega
  · have := outside range member 0x307 (by simp)
    simp only [Char.reduceToNat] at low high
    omega
  · rw [toNat_lowerForm image] at low high
    have := not_lowerForm image range member
    omega
  · rfl

theorem covers_eq_true : ∀ {ranges : CodeRanges} {code : Nat}, ranges.covers code = true →
    ∃ range ∈ ranges, range.1 ≤ code ∧ code ≤ range.2
  | [], code, h => by simp [CodeRanges.covers] at h
  | (first, last) :: later, code, h => by
    simp only [CodeRanges.covers] at h
    split at h
    · simp at h
    · simp only [Bool.or_eq_true, decide_eq_true_eq] at h
      rcases h with inside | h
      · exact ⟨(first, last), by simp, by omega, inside⟩
      · obtain ⟨range, member, inside⟩ := covers_eq_true h
        exact ⟨range, List.mem_cons_of_mem _ member, inside⟩

/-- Lower case makes no white space. -/
theorem eq_of_isSpace_of_mem_lowerChar {c e : Char} (h : e ∈ lowerChar c)
    (space : isSpace e = true) : e = c := by
  obtain ⟨range, member, low, high⟩ := covers_eq_true space
  exact eq_of_mem_lowerChar h range (by simp [notLowerForms, member]) low high

/-- Lower case makes no colon. -/
theorem eq_of_colon_mem_lowerChar {c : Char} (h : ':' ∈ lowerChar c) : c = ':' :=
  (eq_of_mem_lowerChar h (0, 0x60) (by decide) (by decide) (by decide)).symm

/-- Lower case makes no plus. -/
theorem eq_of_plus_mem_lowerChar {c : Char} (h : '+' ∈ lowerChar c) : c = '+' :=
  (eq_of_mem_lowerChar h (0, 0x60) (by decide) (by decide) (by decide)).symm

/-! ## §4 Texts -/

/-- The lower case of a text is that of its first character, before that of the rest. The form of a
capital sigma depends on what stands around it. -/
theorem lowerAfter_cons (cased : Bool) (c : Char) (rest : Text) :
    ∃ form, lowerAfter cased (c :: rest) =
        form ++ lowerAfter (if isCaseIgnorable c then cased else isCased c) rest ∧
      (form = lowerChar c ∨ c = '\u03A3' ∧ form = ['\u03C2']) := by
  simp only [lowerAfter]
  refine ⟨_, rfl, ?_⟩
  split
  · next sigma =>
    subst sigma
    split
    · exact .inr ⟨rfl, rfl⟩
    · exact .inl (by decide)
  · exact .inl rfl

theorem mem_lowerAfter {e : Char} : ∀ {cased : Bool} {t : Text}, e ∈ lowerAfter cased t →
    (∃ c ∈ t, e ∈ lowerChar c) ∨ e = '\u03C2'
  | _, [], h => by simp [lowerAfter] at h
  | cased, c :: rest, h => by
    obtain ⟨form, split, kind⟩ := lowerAfter_cons cased c rest
    rw [split] at h
    rcases List.mem_append.1 h with h | h
    · rcases kind with rfl | ⟨-, rfl⟩
      · exact .inl ⟨c, by simp, h⟩
      · exact .inr (by simpa using h)
    · rcases mem_lowerAfter h with ⟨d, member, hd⟩ | final
      · exact .inl ⟨d, List.mem_cons_of_mem c member, hd⟩
      · exact .inr final

/-- Everything in a text in lower case is settled. -/
theorem settled_of_mem_lower {t : Text} {e : Char} (h : e ∈ lower t) : Settled e := by
  rcases mem_lowerAfter h with ⟨c, -, hc⟩ | rfl
  · exact settled_of_mem_lowerChar hc
  · exact settled_of_no_image (by decide) (by decide)

theorem lowerAfter_of_settled : ∀ {t : Text}, (∀ c ∈ t, Settled c) → ∀ cased : Bool,
    lowerAfter cased t = t
  | [], _, _ => rfl
  | c :: rest, h, cased => by
    obtain ⟨same, notSigma⟩ := h c (by simp)
    have tail := lowerAfter_of_settled (fun d hd => h d (List.mem_cons_of_mem c hd))
      (if isCaseIgnorable c then cased else isCased c)
    simp [lowerAfter, notSigma, same, tail]

theorem lower_of_settled {t : Text} (h : ∀ c ∈ t, Settled c) : lower t = t :=
  lowerAfter_of_settled h false

/-- Texts in lower case stay so when they are joined by a settled character. -/
theorem lower_append_cons {a b : Text} {c : Char} (ha : lower a = a) (hc : Settled c)
    (hb : lower b = b) : lower (a ++ c :: b) = a ++ c :: b := by
  apply lower_of_settled
  intro e member
  rcases List.mem_append.1 member with inA | inB
  · exact settled_of_mem_lower (ha.symm ▸ inA)
  · rcases List.mem_cons.1 inB with rfl | inB
    · exact hc
    · exact settled_of_mem_lower (hb.symm ▸ inB)

theorem settled_of_lower_eq {t : Text} (h : lower t = t) : ∀ c ∈ t, Settled c :=
  fun _ member => settled_of_mem_lower (h.symm ▸ member)

/-- A stretch of a text in lower case is in lower case. -/
theorem lower_of_sublist {part t : Text} (h : lower t = t) (sub : List.Sublist part t) :
    lower part = part :=
  lower_of_settled fun c member => settled_of_lower_eq h c (sub.subset member)

/-- **Lower case is idempotent.** -/
theorem lower_lower (t : Text) : lower (lower t) = lower t :=
  lower_of_settled fun _ => settled_of_mem_lower

theorem lowerChar_ne_nil (c : Char) : lowerChar c ≠ [] := by
  unfold lowerChar
  split
  · simp
  · split <;> simp

/-- A text in lower case opens with a form of its first character, which may be the final sigma. -/
theorem exists_head?_lower_cons (c : Char) (t : Text) :
    ∃ e, (lower (c :: t)).head? = some e ∧ (e ∈ lowerChar c ∨ e = '\u03C2') := by
  obtain ⟨form, split, kind⟩ := lowerAfter_cons false c t
  have nonempty : form ≠ [] := by
    rcases kind with rfl | ⟨-, rfl⟩
    · exact lowerChar_ne_nil c
    · simp
  obtain ⟨e, more, rfl⟩ := List.exists_cons_of_ne_nil nonempty
  refine ⟨e, by rw [lower, split]; simp, ?_⟩
  rcases kind with same | ⟨-, same⟩
  · exact .inl (same ▸ List.mem_cons_self)
  · exact .inr (List.cons.inj same).1

theorem lower_eq_nil_iff {t : Text} : lower t = [] ↔ t = [] := by
  constructor
  · intro h
    cases t with
    | nil => rfl
    | cons c rest =>
      obtain ⟨e, opens, -⟩ := exists_head?_lower_cons c rest
      simp [h] at opens
  · rintro rfl
    rfl

/-- What is no lower-case form was in the text before. -/
theorem mem_of_mem_lower {t : Text} {e : Char} (h : e ∈ lower t) (range : Nat × Nat)
    (member : range ∈ notLowerForms) (low : range.1 ≤ e.toNat) (high : e.toNat ≤ range.2) :
    e ∈ t := by
  rcases mem_lowerAfter h with ⟨c, inText, hc⟩ | rfl
  · rwa [eq_of_mem_lowerChar hc range member low high]
  · have finalSigma : ∀ range ∈ notLowerForms, 0x3C2 < range.1 ∨ range.2 < 0x3C2 := by decide
    have := finalSigma range member
    simp only [Char.reduceToNat] at low high
    omega

theorem isSpace_of_mem_lower {t : Text} {e : Char} (h : e ∈ lower t) (space : isSpace e = true) :
    e ∈ t := by
  obtain ⟨range, member, low, high⟩ := covers_eq_true space
  exact mem_of_mem_lower h range (by simp [notLowerForms, member]) low high

/-- A word in lower case is a word. -/
theorem isWord_lower {w : Text} (h : IsWord w) : IsWord (lower w) := by
  refine ⟨fun e => h.1 (lower_eq_nil_iff.1 e), fun c hc => ?_⟩
  cases space : isSpace c with
  | false => rfl
  | true => rw [← space, h.2 c (isSpace_of_mem_lower hc space)]

/-- Lower case makes no colon and takes none away. -/
theorem count_colon_lowerAfter (cased : Bool) (t : Text) :
    (lowerAfter cased t).count ':' = t.count ':' := by
  induction t generalizing cased with
  | nil => rfl
  | cons c rest ih =>
    obtain ⟨form, split, kind⟩ := lowerAfter_cons cased c rest
    have first : form.count ':' = [c].count ':' := by
      rcases kind with rfl | ⟨rfl, rfl⟩
      · by_cases colon : c = ':'
        · subst colon
          decide
        · rw [List.count_eq_zero.2 fun h => colon (eq_of_colon_mem_lowerChar h),
              List.count_eq_zero.2 (by simpa using Ne.symm colon)]
      · decide
    rw [split, List.count_append, ih, first, ← List.count_append, List.singleton_append]

theorem count_colon_lower (t : Text) : (lower t).count ':' = t.count ':' :=
  count_colon_lowerAfter false t

/-! ## §5 White space -/

/-- The code points of white space. -/
def spaceCodes : List Nat :=
  whiteSpaceRanges.flatMap fun range => List.range' range.1 (range.2 + 1 - range.1)

theorem toNat_mem_spaceCodes {c : Char} (h : isSpace c = true) : c.toNat ∈ spaceCodes := by
  obtain ⟨range, member, low, high⟩ := covers_eq_true h
  refine List.mem_flatMap.2 ⟨range, member, ?_⟩
  rw [List.mem_range'_1]
  omega

/-- White space has no case, and case context does not look through it. -/
theorem spaceCodes_caseless : ∀ code ∈ spaceCodes, CaseRun.image? lowerRuns code = none ∧
    casedRanges.covers code = false ∧ caseIgnorableRanges.covers code = false := by
  decide +kernel

theorem settled_of_isSpace {c : Char} (h : isSpace c = true) : Settled c := by
  refine settled_of_no_image (spaceCodes_caseless _ (toNat_mem_spaceCodes h)).1 ?_
  rintro rfl
  exact absurd h (by decide)

theorem isCased_of_isSpace {c : Char} (h : isSpace c = true) : isCased c = false :=
  (spaceCodes_caseless _ (toNat_mem_spaceCodes h)).2.1

theorem isCaseIgnorable_of_isSpace {c : Char} (h : isSpace c = true) : isCaseIgnorable c = false :=
  (spaceCodes_caseless _ (toNat_mem_spaceCodes h)).2.2

/-- No cased letter is looked for behind white space. -/
theorem opensCased_append_cons {c : Char} (h : isSpace c = true) (t u : Text) :
    opensCased (t ++ c :: u) = opensCased t := by
  induction t with
  | nil => simp [opensCased, isCaseIgnorable_of_isSpace h, isCased_of_isSpace h]
  | cons e t ih => rw [List.cons_append, opensCased, opensCased, ih]

theorem lowerAfter_append_cons {c : Char} (h : isSpace c = true) (cased : Bool) (t u : Text) :
    lowerAfter cased (t ++ c :: u) = lowerAfter cased t ++ c :: lower u := by
  induction t generalizing cased with
  | nil =>
    obtain ⟨same, notSigma⟩ := settled_of_isSpace h
    simp [lowerAfter, lower, notSigma, same, isCaseIgnorable_of_isSpace h, isCased_of_isSpace h]
  | cons e t ih =>
    rw [List.cons_append, lowerAfter, lowerAfter, opensCased_append_cons h, ih]
    simp only [List.append_assoc]

/-- White space keeps the lower case of what stands on either side apart. -/
theorem lower_append_cons_space {c : Char} (h : isSpace c = true) (t u : Text) :
    lower (t ++ c :: u) = lower t ++ c :: lower u := lowerAfter_append_cons h false t u

/-! ## §6 The two cases of an ASCII letter -/

/-- The code points of the ASCII capitals. -/
def capitalCodes : List Nat := List.range' 0x41 26

theorem toLower_eq_or_mem_capitalCodes (c : Char) : c.toLower = c ∨ c.toNat ∈ capitalCodes := by
  unfold Char.toLower
  split
  · next capital =>
    have low : 0x41 ≤ c.toNat := UInt32.le_iff_toNat_le.1 capital.1
    have high : c.toNat ≤ 0x5A := UInt32.le_iff_toNat_le.1 capital.2
    exact .inr (List.mem_range'_1.2 ⟨low, by omega⟩)
  · exact .inl rfl

/-- Lower case and case context treat a capital as they treat its small letter. -/
theorem capitalCodes_alike : ∀ code ∈ capitalCodes,
    lowerChar (Char.ofNat code).toLower = lowerChar (Char.ofNat code) ∧
      isCased (Char.ofNat code).toLower = isCased (Char.ofNat code) ∧
      isCaseIgnorable (Char.ofNat code).toLower = isCaseIgnorable (Char.ofNat code) ∧
      ((Char.ofNat code).toLower = '\u03A3' ↔ Char.ofNat code = '\u03A3') := by
  decide +kernel

theorem toLower_alike (c : Char) : lowerChar c.toLower = lowerChar c ∧
    isCased c.toLower = isCased c ∧ isCaseIgnorable c.toLower = isCaseIgnorable c ∧
    (c.toLower = '\u03A3' ↔ c = '\u03A3') := by
  rcases toLower_eq_or_mem_capitalCodes c with same | capital
  · rw [same]
    exact ⟨rfl, rfl, rfl, Iff.rfl⟩
  · have alike := capitalCodes_alike c.toNat capital
    rwa [Char.ofNat_toNat] at alike

theorem opensCased_map_toLower (t : Text) : opensCased (t.map Char.toLower) = opensCased t := by
  induction t with
  | nil => rfl
  | cons c rest ih =>
    obtain ⟨-, cased, ignorable, -⟩ := toLower_alike c
    rw [List.map_cons, opensCased, opensCased, cased, ignorable, ih]

theorem lowerAfter_map_toLower (cased : Bool) (t : Text) :
    lowerAfter cased (t.map Char.toLower) = lowerAfter cased t := by
  induction t generalizing cased with
  | nil => rfl
  | cons c rest ih =>
    obtain ⟨form, isCased, ignorable, sigma⟩ := toLower_alike c
    simp only [List.map_cons, lowerAfter, form, isCased, ignorable, sigma, opensCased_map_toLower,
      ih]

/-- **Lower case does not see the case of ASCII letters.** -/
theorem lower_map_toLower (t : Text) : lower (t.map Char.toLower) = lower t :=
  lowerAfter_map_toLower false t

end AbilityText.Text

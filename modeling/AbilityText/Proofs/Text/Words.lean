/-
AbilityText.Proofs.Text.Words — the words of a text, and the texts that words make.

Reading the words of a text and writing words with single spaces between them are inverse on words
proper (`words_unwords`), so collapsing white space changes no word (`words_collapse`).

§1 holds what the cutting functions of `Text.Basic` keep: nothing they return was not there before.
-/
import Mathlib.Data.List.TakeWhile
import AbilityText.Text.Space

namespace AbilityText.Text

/-! ## §1 Cuts and ends -/

theorem after?_eq_some : ∀ {opening t rest : Text},
    after? opening t = some rest → t = opening ++ rest
  | [], t, rest, h => by simpa [after?] using h
  | o :: opening, [], rest, h => by simp [after?] at h
  | o :: opening, c :: t, rest, h => by
    simp only [after?] at h
    split at h
    · next same => rw [same, List.cons_append, after?_eq_some h]
    · simp at h

theorem after?_append (opening rest : Text) : after? opening (opening ++ rest) = some rest := by
  induction opening with
  | nil => rfl
  | cons o opening ih => simp [after?, ih]

theorem after?_eq_none {opening t : Text} (h : ¬opening <+: t) : after? opening t = none := by
  rw [Option.eq_none_iff_forall_ne_some]
  intro rest found
  exact h ⟨rest, (after?_eq_some found).symm⟩

/-- What is not in the opening cannot complete it. -/
theorem after?_append_of_not_mem {c : Char} : ∀ {opening : Text}, c ∉ opening → ∀ t rest : Text,
    after? opening (t ++ c :: rest) = (after? opening t).map (· ++ c :: rest)
  | [], _, t, rest => rfl
  | o :: opening, h, [], rest => by
    have other : o ≠ c := fun same => h (by simp [same])
    simp [after?, other]
  | o :: opening, h, x :: t, rest => by
    simp only [List.cons_append, after?]
    split
    · exact after?_append_of_not_mem (fun later => h (List.mem_cons_of_mem o later)) t rest
    · rfl

theorem before?_eq_some {ending t stem : Text} (h : before? ending t = some stem) :
    t = stem ++ ending := by
  obtain ⟨rest, cut, rfl⟩ := Option.map_eq_some_iff.1 h
  have := congrArg List.reverse (after?_eq_some cut)
  simpa using this

theorem before?_append (stem ending : Text) : before? ending (stem ++ ending) = some stem := by
  rw [before?, List.reverse_append, after?_append, Option.map_some, List.reverse_reverse]

/-- Dropping stops at a character that is kept. -/
theorem dropWhile_append_cons {drops : Char → Bool} {c : Char} (h : drops c = false)
    (t rest : Text) :
    (t ++ c :: rest).dropWhile drops = t.dropWhile drops ++ c :: rest := by
  rw [List.dropWhile_append]
  split
  · next empty => rw [List.isEmpty_iff.1 empty, List.dropWhile_cons_of_neg (by simp [h])]; rfl
  · rfl

theorem trimEndOf_initial (drops : Char → Bool) (t : Text) : trimEndOf drops t <+: t := by
  have := List.reverse_prefix.2 (List.dropWhile_suffix (l := t.reverse) drops)
  rwa [List.reverse_reverse] at this

/-- What is trimmed off the end. -/
theorem exists_trimEndOf_append (drops : Char → Bool) (t : Text) :
    ∃ ending, t = trimEndOf drops t ++ ending ∧ ∀ c ∈ ending, drops c = true := by
  refine ⟨(t.reverse.takeWhile drops).reverse, ?_, fun c member => ?_⟩
  · rw [trimEndOf, ← List.reverse_append, List.takeWhile_append_dropWhile, List.reverse_reverse]
  · exact List.mem_takeWhile_imp (List.mem_reverse.1 member)

theorem trimEndOf_sublist (drops : Char → Bool) (t : Text) :
    List.Sublist (trimEndOf drops t) t := (trimEndOf_initial drops t).sublist

theorem trimOf_sublist (drops : Char → Bool) (t : Text) : List.Sublist (trimOf drops t) t :=
  (trimEndOf_sublist drops _).trans (List.dropWhile_sublist drops)

theorem trimOf_infix (drops : Char → Bool) (t : Text) : trimOf drops t <:+: t :=
  (trimEndOf_initial drops _).isInfix.trans (List.dropWhile_suffix drops).isInfix

/-- A text stays as it is when its last character is to be kept. -/
theorem trimEndOf_eq_self {drops : Char → Bool} {t : Text}
    (last : ∀ c ∈ t.getLast?, drops c = false) : trimEndOf drops t = t := by
  have kept : t.reverse.dropWhile drops = t.reverse := by
    cases hr : t.reverse with
    | nil => rfl
    | cons c rest =>
      have : c ∈ t.getLast? := by rw [← List.head?_reverse, hr]; rfl
      simp [last c this]
  rw [trimEndOf, kept, List.reverse_reverse]

/-- Trimming takes away nothing else than what it drops. -/
theorem filter_trimOf {drops keeps : Char → Bool} (h : ∀ c, drops c = true → keeps c = false)
    (t : Text) : (trimOf drops t).filter keeps = t.filter keeps := by
  have dropped : ∀ {gap : Text}, (∀ c ∈ gap, drops c = true) → gap.filter keeps = [] :=
    fun all => List.filter_eq_nil_iff.2 fun c member => by simp [h c (all c member)]
  obtain ⟨ending, cut, ends⟩ := exists_trimEndOf_append drops (t.dropWhile drops)
  have opens : ∀ c ∈ t.takeWhile drops, drops c = true := fun _ => List.mem_takeWhile_imp
  have split : t = t.takeWhile drops ++ (trimOf drops t ++ ending) := by
    rw [trimOf, ← cut, List.takeWhile_append_dropWhile]
  calc (trimOf drops t).filter keeps
      = (t.takeWhile drops ++ (trimOf drops t ++ ending)).filter keeps := by
        rw [List.filter_append, List.filter_append, dropped opens, dropped ends, List.nil_append,
          List.append_nil]
    _ = t.filter keeps := congrArg (List.filter keeps) split.symm

theorem trimEndOf_concat {drops : Char → Bool} {c : Char} (h : drops c = true) (t : Text) :
    trimEndOf drops (t ++ [c]) = trimEndOf drops t := by
  simp [trimEndOf, h]

/-- A text stays as it is when the character at either end is to be kept. -/
theorem trimOf_eq_self {drops : Char → Bool} {t : Text}
    (first : ∀ c ∈ t.head?, drops c = false) (last : ∀ c ∈ t.getLast?, drops c = false) :
    trimOf drops t = t := by
  have start : t.dropWhile drops = t := by
    cases t with
    | nil => rfl
    | cons c rest => simp [first c (by simp)]
  rw [trimOf, start, trimEndOf_eq_self last]

/-- The first character of a trimmed text is to be kept. -/
theorem head?_trimOf (drops : Char → Bool) (t : Text) :
    ∀ c ∈ (trimOf drops t).head?, drops c = false := by
  intro c first
  obtain ⟨ending, cut⟩ := trimEndOf_initial drops (t.dropWhile drops)
  have opens : (t.dropWhile drops).head? = some c := by
    rw [← cut, List.head?_append, ← trimOf, Option.mem_def.1 first, Option.some_or]
  simpa [opens] using List.head?_dropWhile_not drops t

/-- The last character of a trimmed text is to be kept. -/
theorem getLast?_trimOf (drops : Char → Bool) (t : Text) :
    ∀ c ∈ (trimOf drops t).getLast?, drops c = false := by
  intro c last
  rw [trimOf, trimEndOf, List.getLast?_reverse] at last
  simpa [Option.mem_def.1 last] using
    List.head?_dropWhile_not drops (t.dropWhile drops).reverse

/-- Trimming the end stops at a character that is kept. -/
theorem trimEndOf_append_cons {drops : Char → Bool} {c : Char} (h : drops c = false)
    (t rest : Text) : trimEndOf drops (t ++ c :: rest) = t ++ c :: trimEndOf drops rest := by
  have stops := dropWhile_append_cons h rest.reverse t.reverse
  have turned : (t ++ c :: rest).reverse = rest.reverse ++ c :: t.reverse := by simp
  rw [trimEndOf, turned, stops]
  simp [trimEndOf]

/-- A text whose first character is to be kept is trimmed at its end, and there not past another
character that is to be kept. -/
theorem trimOf_append_cons_of_head {drops : Char → Bool} {c : Char} (h : drops c = false)
    {t : Text} (first : ∀ e ∈ t.head?, drops e = false) (rest : Text) :
    trimOf drops (t ++ c :: rest) = t ++ c :: trimEndOf drops rest := by
  have start : (t ++ c :: rest).dropWhile drops = t ++ c :: rest := by
    cases t with
    | nil => exact List.dropWhile_cons_of_neg (by simp [h])
    | cons e t => exact List.dropWhile_cons_of_neg (by simp [first e rfl])
  rw [trimOf, start, trimEndOf_append_cons h]

theorem trimEndOf_trimEndOf (drops : Char → Bool) (t : Text) :
    trimEndOf drops (trimEndOf drops t) = trimEndOf drops t := by
  refine trimEndOf_eq_self fun c last => ?_
  rw [trimEndOf, List.getLast?_reverse] at last
  simpa [Option.mem_def.1 last] using List.head?_dropWhile_not drops t.reverse

/-- Trimming both ends includes trimming the end. -/
theorem trimOf_trimEndOf (drops : Char → Bool) (t : Text) :
    trimOf drops (trimEndOf drops t) = trimOf drops t := by
  have cut : t.takeWhile drops ++ t.dropWhile drops = t := List.takeWhile_append_dropWhile
  have dropped : ∀ c ∈ t.takeWhile drops, drops c = true := fun _ => List.mem_takeWhile_imp
  cases kept : t.dropWhile drops with
  | nil =>
    have all : ∀ c ∈ t, drops c = true := List.dropWhile_eq_nil_iff.1 kept
    have none : (trimEndOf drops t).dropWhile drops = [] :=
      List.dropWhile_eq_nil_iff.2 fun c member => all c ((trimEndOf_sublist drops t).subset member)
    rw [trimOf, trimOf, none, kept]
  | cons c rest =>
    have first : drops c = false := by simpa [kept] using List.head?_dropWhile_not drops t
    rw [kept] at cut
    have ends : trimEndOf drops (c :: rest) = c :: trimEndOf drops rest :=
      trimEndOf_append_cons first [] rest
    have start : (c :: trimEndOf drops rest).dropWhile drops = c :: trimEndOf drops rest :=
      List.dropWhile_cons_of_neg (by simp [first])
    rw [trimOf, trimOf, kept, ends, ← cut, trimEndOf_append_cons first,
      List.dropWhile_append_of_pos dropped, start, ← ends, trimEndOf_trimEndOf]

/-- The last character of an ending is that of the text. -/
theorem mem_getLast?_of_suffix {ending t : Text} (h : ending <:+ t) :
    ∀ c ∈ ending.getLast?, c ∈ t.getLast? := by
  obtain ⟨stem, rfl⟩ := h
  intro c last
  rw [List.getLast?_append, Option.mem_def.1 last]
  rfl

/-- Trimming keeps a character that is to be kept, and what stands between it and the ends. -/
theorem trimOf_append_cons {drops : Char → Bool} {c : Char} (h : drops c = false) {t rest : Text}
    (ends : ∀ c ∈ t.getLast?, drops c = false) (restEnds : ∀ c ∈ rest.getLast?, drops c = false) :
    trimOf drops (t ++ c :: rest) = trimOf drops t ++ c :: rest := by
  have own : trimEndOf drops (t.dropWhile drops) = t.dropWhile drops :=
    trimEndOf_eq_self fun e last =>
      ends e (mem_getLast?_of_suffix (List.dropWhile_suffix drops) e last)
  rw [trimOf, trimOf, own, dropWhile_append_cons h]
  apply trimEndOf_eq_self
  intro e last
  rw [List.getLast?_append, List.getLast?_cons, Option.some_or, Option.mem_some] at last
  cases behind : rest.getLast? with
  | none =>
    rw [behind, Option.getD_none] at last
    exact last ▸ h
  | some x =>
    rw [behind, Option.getD_some] at last
    exact restEnds e (by rw [behind, last]; rfl)

theorem cutFirst?_eq_some {mark : Char} : ∀ {t before after : Text},
    cutFirst? mark t = some (before, after) → t = before ++ mark :: after
  | [], before, after, h => by simp [cutFirst?] at h
  | c :: rest, before, after, h => by
    rw [cutFirst?] at h
    split at h
    · next same =>
      obtain ⟨rfl, rfl⟩ : [] = before ∧ rest = after := by simpa using h
      rw [same, List.nil_append]
    · obtain ⟨cut, hrest, same⟩ := Option.map_eq_some_iff.1 h
      obtain ⟨rfl, rfl⟩ : c :: cut.1 = before ∧ cut.2 = after := by simpa using same
      rw [cutFirst?_eq_some hrest, List.cons_append]

theorem cutLast?_eq_some {mark : Char} : ∀ {t value tag : Text},
    cutLast? mark t = some (value, tag) → t = value ++ mark :: tag
  | [], value, tag, h => by simp [cutLast?] at h
  | c :: rest, value, tag, h => by
    rw [cutLast?] at h
    split at h
    · next cut hrest =>
      obtain ⟨rfl, rfl⟩ : c :: cut.1 = value ∧ cut.2 = tag := by simpa using h
      rw [cutLast?_eq_some hrest, List.cons_append]
    · split at h
      · next same =>
        obtain ⟨rfl, rfl⟩ : [] = value ∧ rest = tag := by simpa using h
        rw [same, List.nil_append]
      · simp at h

theorem cutLast?_of_not_mem {mark : Char} {t : Text} (h : mark ∉ t) : cutLast? mark t = none := by
  induction t with
  | nil => rfl
  | cons c rest ih =>
    obtain ⟨hc, hrest⟩ := not_or.1 (mt List.mem_cons.2 h)
    simp [cutLast?, ih hrest, Ne.symm hc]

/-- The last mark is the one after which no other stands. -/
theorem cutLast?_append {mark : Char} (value : Text) {tag : Text} (h : mark ∉ tag) :
    cutLast? mark (value ++ mark :: tag) = some (value, tag) := by
  induction value with
  | nil => simp [cutLast?, cutLast?_of_not_mem h]
  | cons c value ih => simp [cutLast?, ih]

/-! ## §2 Words -/

/-- A non-empty text without white space. -/
def IsWord (w : Text) : Prop := w ≠ [] ∧ ∀ c ∈ w, isSpace c = false

theorem isSpace_space : isSpace ' ' = true := by decide

@[simp] theorem words_nil : words [] = [] := by simp [words]

/-- White space separates words, whatever stands on either side of it. -/
theorem words_append_space {c : Char} (hc : isSpace c = true) (t u : Text) :
    words (t ++ c :: u) = words t ++ words u := by
  rw [words, List.splitOnP_append_cons t u hc, List.filter_append]
  rfl

theorem words_cons_space {c : Char} (hc : isSpace c = true) (t : Text) :
    words (c :: t) = words t := by
  simpa using words_append_space hc [] t

theorem words_of_isWord {w : Text} (h : IsWord w) : words w = [w] := by
  rw [words, List.splitOnP_eq_singleton h.2]
  simp [h.1]

/-- Pieces of a split hold no separator, and nothing that the text does not hold. -/
theorem mem_splitOnP {p : Char → Bool} : ∀ {t piece : Text}, piece ∈ t.splitOnP p →
    ∀ c ∈ piece, p c = false ∧ c ∈ t
  | [], piece, h, c, hc => by
    have : piece = [] := by simpa using h
    simp [this] at hc
  | x :: t, piece, h, c, hc => by
    rw [List.splitOnP_cons_eq_if_modifyHead] at h
    split at h
    · rcases List.mem_cons.1 h with rfl | h
      · simp at hc
      · exact (mem_splitOnP h c hc).imp_right (List.mem_cons_of_mem x)
    · next keep =>
      obtain ⟨first, more, hsplit⟩ := List.exists_cons_of_ne_nil (List.splitOnP_ne_nil p t)
      have inner : ∀ q ∈ first :: more, ∀ c ∈ q, p c = false ∧ c ∈ x :: t := fun q hq c hc =>
        (mem_splitOnP (hsplit ▸ hq) c hc).imp_right (List.mem_cons_of_mem x)
      rw [hsplit, List.modifyHead_cons] at h
      rcases List.mem_cons.1 h with rfl | h
      · rcases List.mem_cons.1 hc with rfl | hc
        · exact ⟨by simpa using keep, by simp⟩
        · exact inner first (by simp) c hc
      · exact inner piece (by simp [h]) c hc

theorem isWord_of_mem_words {t w : Text} (h : w ∈ words t) : IsWord w := by
  obtain ⟨piece, nonempty⟩ := List.mem_filter.1 h
  exact ⟨by simpa using nonempty, fun c hc => (mem_splitOnP piece c hc).1⟩

theorem mem_of_mem_words {t w : Text} {c : Char} (h : w ∈ words t) (hc : c ∈ w) : c ∈ t :=
  (mem_splitOnP (List.mem_filter.1 h).1 c hc).2

/-- A text has no words exactly when it is blank. -/
theorem words_eq_nil_iff {t : Text} : words t = [] ↔ isBlank t = true := by
  induction t with
  | nil => simp [isBlank]
  | cons c rest ih =>
    cases hc : isSpace c with
    | true => rw [words_cons_space hc, ih]; simp [isBlank, hc]
    | false =>
      -- The first piece of the split holds `c`, so it is a word.
      obtain ⟨first, more, hsplit⟩ :=
        List.exists_cons_of_ne_nil (List.splitOnP_ne_nil isSpace rest)
      have split : (c :: rest).splitOnP isSpace = (c :: first) :: more := by
        rw [List.splitOnP_cons_eq_if_modifyHead, hsplit]
        simp [hc]
      simp [words, split, isBlank, hc]

/-! ## §3 Words with single spaces between them -/

@[simp] theorem unwords_nil : unwords [] = [] := rfl

@[simp] theorem unwords_singleton (w : Text) : unwords [w] = w := List.intercalate_singleton

theorem unwords_cons_cons (w v : Text) (ws : List Text) :
    unwords (w :: v :: ws) = w ++ ' ' :: unwords (v :: ws) := by
  rw [unwords, List.intercalate_cons_cons, List.append_assoc]
  rfl

theorem unwords_concat {ws : List Text} (nonempty : ws ≠ []) (w : Text) :
    unwords (ws ++ [w]) = unwords ws ++ ' ' :: w := by
  induction ws with
  | nil => exact absurd rfl nonempty
  | cons v ws ih =>
    cases ws with
    | nil => simp [unwords_cons_cons]
    | cons u ws =>
      have later := ih (by simp)
      rw [List.cons_append] at later
      rw [List.cons_append, List.cons_append, unwords_cons_cons, later, unwords_cons_cons]
      simp

/-- The words of a text that words make are those words. -/
theorem words_unwords : ∀ {ws : List Text}, (∀ w ∈ ws, IsWord w) → words (unwords ws) = ws
  | [], _ => by simp
  | [w], h => by rw [unwords_singleton, words_of_isWord (h w (by simp))]
  | w :: v :: ws, h => by
    rw [unwords_cons_cons, words_append_space isSpace_space, words_of_isWord (h w (by simp)),
        words_unwords fun u hu => h u (List.mem_cons_of_mem w hu)]
    rfl

/-- A word comes first among the words of a text that it opens, whatever is joined to it. -/
theorem head?_words_unwords {w : Text} (h : IsWord w) (pieces : List Text) :
    (words (unwords (w :: pieces))).head? = some w := by
  cases pieces with
  | nil => rw [unwords_singleton, words_of_isWord h]; rfl
  | cons v pieces =>
    rw [unwords_cons_cons, words_append_space isSpace_space, words_of_isWord h]
    rfl

theorem words_unwords_words (t : Text) : words (unwords (words t)) = words t :=
  words_unwords fun _ => isWord_of_mem_words

/-- Collapsing white space changes no word. -/
theorem words_collapse (t : Text) : words (collapse t) = words t := words_unwords_words t

theorem collapse_collapse (t : Text) : collapse (collapse t) = collapse t := by
  rw [collapse, words_collapse, collapse]

theorem unwords_eq_nil_iff {ws : List Text} (h : ∀ w ∈ ws, IsWord w) :
    unwords ws = [] ↔ ws = [] := by
  constructor
  · intro e
    rw [← words_unwords h, e, words_nil]
  · rintro rfl
    exact unwords_nil

theorem isBlank_of_isWord {w : Text} (h : IsWord w) : isBlank w = false := by
  rw [← Bool.not_eq_true, ← words_eq_nil_iff, words_of_isWord h]
  simp

theorem isBlank_unwords {ws : List Text} (h : ∀ w ∈ ws, IsWord w) (nonempty : ws ≠ []) :
    isBlank (unwords ws) = false := by
  rw [← Bool.not_eq_true, ← words_eq_nil_iff, words_unwords h]
  exact nonempty

/-- What is collapsed is blank only when nothing is left of it. -/
theorem isBlank_collapse_iff {t : Text} : isBlank (collapse t) = true ↔ collapse t = [] := by
  rw [← words_eq_nil_iff, words_collapse, collapse,
      unwords_eq_nil_iff fun _ => isWord_of_mem_words]

/-- What joined texts hold is the mark between them, or stands in one of them. -/
theorem mem_intercalate {mark c : Char} {ts : List Text} (h : c ∈ [mark].intercalate ts) :
    c = mark ∨ ∃ t ∈ ts, c ∈ t := by
  induction ts with
  | nil => simp at h
  | cons t rest ih =>
    cases rest with
    | nil => exact .inr ⟨t, by simp, by simpa using h⟩
    | cons u rest =>
      rw [List.intercalate_cons_cons, List.append_assoc] at h
      rcases List.mem_append.1 h with h | h
      · exact .inr ⟨t, by simp, h⟩
      · rcases List.mem_cons.1 h with h | h
        · exact .inl h
        · exact (ih h).imp_right fun ⟨v, hv, hc⟩ => ⟨v, List.mem_cons_of_mem t hv, hc⟩

theorem mem_of_mem_collapse {t : Text} {c : Char} (h : c ∈ collapse t) :
    c = ' ' ∨ c ∈ t ∧ isSpace c = false :=
  (mem_intercalate h).imp_right fun ⟨_, hw, hc⟩ =>
    ⟨mem_of_mem_words hw hc, (isWord_of_mem_words hw).2 c hc⟩

/-- A text that words make does not open with white space. -/
theorem isSpace_head?_unwords {ws : List Text} (h : ∀ w ∈ ws, IsWord w) :
    ∀ c ∈ (unwords ws).head?, isSpace c = false := by
  intro c hc
  match ws with
  | [] => simp at hc
  | [] :: _ => exact absurd rfl (h [] (by simp)).1
  | [d :: w] =>
    obtain rfl : d = c := by simpa using hc
    exact (h (d :: w) (by simp)).2 d (by simp)
  | (d :: w) :: v :: ws =>
    obtain rfl : d = c := by simpa [unwords_cons_cons] using hc
    exact (h (d :: w) (by simp)).2 d (by simp)

end AbilityText.Text

/-
AbilityText.Proofs.Template.Tidy — what is tidied is tidy.

Tidying has three steps, each on what the one before has left: white space is collapsed, punctuation
is closed up to what stands before it, and commas and white space go from both ends. No later step
undoes an earlier one. Closing up takes single spaces away between characters that are none, so
no two spaces meet and none comes to stand before other punctuation (`spaces_closeUp`). And a text
that loses characters at its ends keeps its pairs of neighbours, so it stays closed up and single
spaced (`ClosedUp.of_infix`).

A tidy text is left as it is by all three steps (`tidy_of_isTidy`), so tidying once is enough.
-/
import AbilityText.Proofs.Text.Layout
import AbilityText.Template

namespace AbilityText.Template

open Text (isSpace opensSpaced SingleSpaced singleSpaced_cons)

/-! ## §1 Punctuation closed up -/

/-- No space stands right before closing punctuation. -/
def ClosedUp (t : Text) : Prop := ∀ c, closesUp c = true → ¬[' ', c] <:+: t

section
variable {t : Text}

theorem isSpace_of_closesUp {c : Char} (h : closesUp c = true) : isSpace c = false := by
  simp only [closesUp, Bool.or_eq_true, decide_eq_true_eq] at h
  rcases h with ((rfl | rfl) | rfl) | rfl <;> decide

theorem ne_space_of_closesUp {c : Char} (h : closesUp c = true) : c ≠ ' ' :=
  (Text.ne_of_isSpace Text.isSpace_space (isSpace_of_closesUp h)).symm

theorem closedUp_nil : ClosedUp [] := fun _ _ => by simp

theorem closedUp_cons {c : Char} : ClosedUp (c :: t) ↔
    (c = ' ' → ∀ d ∈ t.head?, closesUp d = false) ∧ ClosedUp t := by
  constructor
  · intro h
    refine ⟨?_, fun e closes inside => h e closes (inside.trans (List.suffix_cons c t).isInfix)⟩
    rintro rfl d first
    obtain ⟨rest, rfl⟩ := List.head?_eq_some_iff.1 first
    exact Bool.eq_false_iff.2 fun closes => h d closes (List.prefix_append [' ', d] rest).isInfix
  · rintro ⟨first, later⟩ e closes inside
    rcases List.infix_cons_iff.1 inside with opens | inside
    · obtain ⟨space, rest, rfl⟩ := List.cons_prefix_cons.1 opens
      exact Bool.eq_false_iff.1 (first space.symm e rfl) closes
    · exact later e closes inside

theorem ClosedUp.of_infix (h : ClosedUp t) {part : Text} (inside : part <:+: t) : ClosedUp part :=
  fun c closes twice => h c closes (twice.trans inside)

/-- Only a space can be taken away at the start. -/
theorem head?_closeUp_cons {c : Char} (h : c ≠ ' ') (t : Text) :
    (closeUp (c :: t)).head? = some c := by
  cases t with
  | nil => rfl
  | cons d rest => simp [closeUp, h]

/-- **Closing up single spaces leaves single spaces, and none before closing punctuation.** -/
theorem spaces_closeUp (h : SingleSpaced t) : SingleSpaced (closeUp t) ∧ ClosedUp (closeUp t) := by
  induction t using closeUp.induct with
  | case1 => exact ⟨Text.singleSpaced_nil, closedUp_nil⟩
  | case2 c => exact ⟨h, closedUp_cons.2 ⟨fun _ => by simp, closedUp_nil⟩⟩
  | case3 c d rest drops ih =>
    obtain ⟨-, closes⟩ := Bool.and_eq_true_iff.1 drops
    obtain ⟨spaced, closed⟩ := ih (singleSpaced_cons.1 (singleSpaced_cons.1 h).2).2
    rw [closeUp, if_pos drops]
    refine ⟨singleSpaced_cons.2 ⟨fun space => ?_, spaced⟩,
      closedUp_cons.2 ⟨fun space => ?_, closed⟩⟩
    · exact absurd space (Bool.eq_false_iff.1 (isSpace_of_closesUp closes))
    · exact absurd space (ne_space_of_closesUp closes)
  | case4 c d rest keeps ih =>
    obtain ⟨first, later⟩ := singleSpaced_cons.1 h
    obtain ⟨spaced, closed⟩ := ih later
    rw [closeUp, if_neg keeps]
    -- Behind a space comes no other, so the next character stays where it is.
    have next : isSpace c = true → (closeUp (d :: rest)).head? = some d := fun space =>
      head?_closeUp_cons (Text.ne_of_isSpace Text.isSpace_space (first space).2).symm rest
    refine ⟨singleSpaced_cons.2 ⟨fun space => ⟨(first space).1, ?_⟩, spaced⟩,
      closedUp_cons.2 ⟨?_, closed⟩⟩
    · rw [opensSpaced, next space]
      exact (first space).2
    · rintro rfl e start
      obtain rfl : d = e := Option.some.inj ((next Text.isSpace_space).symm.trans start)
      simpa using keeps

theorem closeUp_of_closedUp (h : ClosedUp t) : closeUp t = t := by
  induction t using closeUp.induct with
  | case1 => rfl
  | case2 c => rfl
  | case3 c d rest drops ih =>
    obtain ⟨space, closes⟩ := Bool.and_eq_true_iff.1 drops
    have apart := (closedUp_cons.1 h).1 (of_decide_eq_true space) d rfl
    exact absurd closes (Bool.eq_false_iff.1 apart)
  | case4 c d rest keeps ih => rw [closeUp, if_neg keeps, ih (closedUp_cons.1 h).2]

end

/-! ## §2 Tidy texts -/

/-- The normal form of written text: neither white space nor a comma stands at an end, all white
space is single spaces, and none stands right before a comma, a period, a colon or a semicolon. -/
structure IsTidy (t : Text) : Prop where
  first : ∀ c ∈ t.head?, c ≠ ',' ∧ isSpace c = false
  last : ∀ c ∈ t.getLast?, c ≠ ',' ∧ isSpace c = false
  spaced : SingleSpaced t
  closedUp : ∀ c ∈ [',', '.', ':', ';'], ¬[' ', c] <:+: t

section
variable {t : Text}

theorem closesUp_iff {c : Char} : closesUp c = true ↔ c ∈ [',', '.', ':', ';'] := by
  simp [closesUp, or_assoc]

theorem isTidy_tidy (t : Text) : IsTidy (tidy t) := by
  obtain ⟨spaced, closed⟩ := spaces_closeUp (Text.singleSpaced_collapse t)
  have inside := Text.trimOf_infix (fun c => c = ',' || isSpace c) (closeUp (Text.collapse t))
  constructor
  case first =>
    intro c first
    simpa using Text.head?_trimOf _ _ c first
  case last =>
    intro c last
    simpa using Text.getLast?_trimOf _ _ c last
  case spaced => exact spaced.of_infix inside
  case closedUp => exact fun c listed => closed.of_infix inside c (closesUp_iff.2 listed)

/-- Every step leaves a tidy text as it is. -/
theorem tidy_of_isTidy (h : IsTidy t) : tidy t = t := by
  have trimmed : Text.IsTrimmed t := by
    refine ⟨?_, fun c last => (h.last c last).2⟩
    cases t with
    | nil => rfl
    | cons c rest => exact (h.first c rfl).2
  have collapsed : Text.collapse t = t := Text.collapse_eq_self_iff.2 ⟨trimmed, h.spaced⟩
  have closed : closeUp t = t :=
    closeUp_of_closedUp fun c closes => h.closedUp c (closesUp_iff.1 closes)
  rw [tidy, collapsed, closed]
  refine Text.trimOf_eq_self (fun c first => ?_) fun c last => ?_
  · simpa using h.first c first
  · simpa using h.last c last

/-! ## §3 What tidying keeps -/

/-- Neither a comma nor white space. -/
def isContent (c : Char) : Bool := !(c = ',' || isSpace c)

theorem isContent_of_isSpace {c : Char} (h : isSpace c = true) : isContent c = false := by
  simp [isContent, h]

theorem filter_closeUp (t : Text) : (closeUp t).filter isContent = t.filter isContent := by
  induction t using closeUp.induct with
  | case1 => rfl
  | case2 c => rfl
  | case3 c d rest drops ih =>
    obtain ⟨space, -⟩ := Bool.and_eq_true_iff.1 drops
    obtain rfl := of_decide_eq_true space
    have blank : isContent ' ' = false := isContent_of_isSpace Text.isSpace_space
    rw [closeUp, if_pos drops, List.filter_cons (x := ' '), if_neg (by simp [blank]),
      List.filter_cons, ih, ← List.filter_cons]
  | case4 c d rest keeps ih => rw [closeUp, if_neg keeps, List.filter_cons, ih, ← List.filter_cons]

/-- **Tidying drops commas and white space only.** -/
theorem filter_tidy (t : Text) : (tidy t).filter isContent = t.filter isContent := by
  have ends : ∀ c, (decide (c = ',') || isSpace c) = true → isContent c = false := by
    intro c dropped
    simp [isContent, dropped]
  rw [tidy, Text.filter_trimOf ends, filter_closeUp,
    Text.filter_collapse fun _ => isContent_of_isSpace]

end

/-- **Tidied texts are in normal form.** Tidying any text gives a tidy one, with the content of the
text in its order; a text is left as it is exactly when it is tidy, and so tidying again changes
nothing. What a template is filled in with is tidied last, so the result is in normal form whatever
the template and its values are. -/
theorem tidy_normalizes :
    (∀ t, IsTidy (tidy t) ∧ tidy (tidy t) = tidy t ∧ (tidy t = t ↔ IsTidy t) ∧
      (tidy t).filter isContent = t.filter isContent) ∧
    ∀ template lookup, IsTidy (render template lookup) := by
  refine ⟨fun t => ⟨isTidy_tidy t, tidy_of_isTidy (isTidy_tidy t), ?_, filter_tidy t⟩, ?_⟩
  · exact ⟨fun same => same ▸ isTidy_tidy t, tidy_of_isTidy⟩
  · exact fun template lookup => isTidy_tidy _

/-- Punctuation in a row is closed up one by one, and commas at the ends go with the white space
between them. -/
example : tidy " , ,  if you do , . ; draw\n , " = ("if you do,.; draw" : Text) := by decide

end AbilityText.Template

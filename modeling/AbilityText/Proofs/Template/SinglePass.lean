/-
AbilityText.Proofs.Template.SinglePass — filling in a template in one pass.

`renderOnce` decides first which sections are kept, and then replaces every placeholder of the kept
text once. `render` fills in a section before it fills in the whole, so what it wrote there is read
again (`render_section`), and a value with an opening brace can make a new placeholder. In a
template whose braces all enclose names that is the only way to tell the two apart
(`substituteFrom_resolve`): values outside the sections are never read again.
-/
import AbilityText.Template

namespace AbilityText.Template

/-! ## §1 One pass -/

/-- The placeholders of a section. -/
def Piece.names : Piece → List Text
  | .plain _ => []
  | .optional inner => placeholders inner

/-- The text of a piece that is kept, still with its placeholders: a section without placeholders
stays, and one with placeholders stays when one of them has a value. -/
def Piece.kept (lookup : Text → Option Text) : Piece → Text
  | .plain text => text
  | .optional inner =>
    if (placeholders inner).isEmpty ||
        (placeholders inner).any fun name => (value? lookup name).isSome then inner
    else []

/-- The template filled in: the placeholders of the text that its sections keep, then tidied. -/
def renderOnce (template : Text) (lookup : Text → Option Text) : Text :=
  tidy (substitute lookup ((pieces none template).flatMap (Piece.kept lookup)))

theorem resolve_of_names_eq_nil {lookup : Text → Option Text} :
    ∀ {piece : Piece}, piece.names = [] → piece.resolve lookup = piece.kept lookup
  | .plain _, _ => rfl
  | .optional inner, h => by
    have nothing : placeholders inner = [] := h
    simp [Piece.resolve, Piece.kept, nothing]

/-- A section is dropped either way, or it is kept and may already be filled in. -/
theorem resolve_optional (lookup : Text → Option Text) (inner : Text) :
    (Piece.resolve lookup (.optional inner) = [] ∧ Piece.kept lookup (.optional inner) = []) ∨
      (Piece.resolve lookup (.optional inner) = inner ∨
          Piece.resolve lookup (.optional inner) = substitute lookup inner) ∧
        Piece.kept lookup (.optional inner) = inner := by
  rw [Piece.resolve, Piece.kept]
  cases (placeholders inner).isEmpty with
  | true => exact .inr ⟨.inl rfl, rfl⟩
  | false =>
    cases (placeholders inner).any fun name => (value? lookup name).isSome with
    | true => exact .inr ⟨.inr rfl, rfl⟩
    | false => exact .inl ⟨rfl, rfl⟩

/-! ## §2 Reading tokens character by character -/

/-- The tokens that a character completes, and the name that is open after it. -/
def advance : Option Text → Char → List Token × Option Text
  | none, c => if c = '\x7b' then ([], some []) else ([.literal [c]], none)
  | some name, c =>
    if c = '\x7b' then ([.literal ('\x7b' :: name)], some [])
    else if c = '\x7d' && !name.isEmpty then ([.placeholder name], none)
    else if isNameChar c then ([], some (name ++ [c]))
    else ([.literal ('\x7b' :: name ++ [c])], none)

theorem tokens_cons (opened : Option Text) (c : Char) (rest : Text) :
    tokens opened (c :: rest) = (advance opened c).1 ++ tokens (advance opened c).2 rest := by
  cases opened with
  | none =>
    rw [tokens, advance]
    split <;> rfl
  | some name =>
    rw [tokens, advance]
    split
    · rfl
    · split
      · rfl
      · split <;> rfl

theorem advance_none {c : Char} (h : c ≠ '\x7b') : advance none c = ([.literal [c]], none) :=
  if_neg h

/-- Is the token an opening brace that encloses no name? -/
def Token.isStray : Token → Bool
  | .literal text => text.contains '\x7b'
  | .placeholder _ => false

/-- Every opening brace encloses a name. -/
def WellBraced (opened : Option Text) (t : Text) : Prop :=
  ∀ token ∈ tokens opened t, token.isStray = false

instance (opened : Option Text) (t : Text) : Decidable (WellBraced opened t) :=
  inferInstanceAs (Decidable (∀ token ∈ tokens opened t, token.isStray = false))

section
variable {opened : Option Text} {c : Char} {t : Text}

theorem wellBraced_of_cons (h : WellBraced opened (c :: t)) :
    WellBraced (advance opened c).2 t := by
  intro token member
  refine h token ?_
  rw [tokens_cons]
  exact List.mem_append_right _ member

/-- A bracket is no part of a name, so no brace is open at a section. -/
theorem opened_eq_none_of_bracket (h : WellBraced opened (c :: t)) (bracket : c = '[' ∨ c = ']') :
    opened = none := by
  cases opened with
  | none => rfl
  | some name =>
    have ends : (advance (some name) c).1 = [.literal ('\x7b' :: name ++ [c])] := by
      rcases bracket with rfl | rfl <;> rfl
    have stray := h (.literal ('\x7b' :: name ++ [c])) (by rw [tokens_cons, ends]; simp)
    simp [Token.isStray] at stray

/-- The text up to a bracket is read on its own. -/
theorem tokens_append_of_bracket (bracket : c = '[' ∨ c = ']') :
    ∀ {inner : Text} {opened : Option Text}, WellBraced opened (inner ++ c :: t) →
      ∀ rest, tokens opened (inner ++ rest) = tokens opened inner ++ tokens none rest
  | [], opened, h, rest => by
    obtain rfl := opened_eq_none_of_bracket h bracket
    rfl
  | d :: inner, opened, h, rest => by
    have onward := tokens_append_of_bracket bracket (wellBraced_of_cons h) rest
    rw [List.cons_append, tokens_cons, onward, tokens_cons, List.append_assoc]

theorem wellBraced_of_append (bracket : c = '[' ∨ c = ']') {inner : Text}
    (h : WellBraced opened (inner ++ c :: t)) :
    WellBraced opened inner ∧ WellBraced none (c :: t) := by
  unfold WellBraced at *
  rw [tokens_append_of_bracket bracket h] at h
  exact List.forall_mem_append.1 h

end

/-! ## §3 Filling in -/

/-- The text with its placeholders replaced, when this name is open before it. -/
def substituteFrom (lookup : Text → Option Text) (opened : Option Text) (t : Text) : Text :=
  (tokens opened t).flatMap (Token.fill lookup)

section
variable {lookup : Text → Option Text}

variable (lookup) in
theorem substituteFrom_cons (opened : Option Text) (c : Char) (rest : Text) :
    substituteFrom lookup opened (c :: rest) =
      (advance opened c).1.flatMap (Token.fill lookup) ++
        substituteFrom lookup (advance opened c).2 rest := by
  rw [substituteFrom, tokens_cons, List.flatMap_append]
  rfl

variable (lookup) in
/-- The text up to a bracket is filled in on its own. -/
theorem substitute_append_of_bracket {inner t : Text} {c : Char} (bracket : c = '[' ∨ c = ']')
    (h : WellBraced none (inner ++ c :: t)) (rest : Text) :
    substitute lookup (inner ++ rest) = substitute lookup inner ++ substitute lookup rest := by
  rw [substitute, tokens_append_of_bracket bracket h, List.flatMap_append]
  rfl

/-- A text without opening braces stays as it is, whatever follows it. -/
theorem substitute_append_of_not_mem : ∀ {t : Text}, '\x7b' ∉ t → ∀ rest,
    substitute lookup (t ++ rest) = t ++ substitute lookup rest
  | [], _, _ => rfl
  | c :: t, h, rest => by
    have first : c ≠ '\x7b' := fun same => h (by simp [same])
    have later : '\x7b' ∉ t := fun member => h (List.mem_cons_of_mem _ member)
    have step := substituteFrom_cons lookup none c (t ++ rest)
    rw [advance_none first] at step
    rw [List.cons_append, substitute, ← substituteFrom, step]
    exact congrArg (c :: ·) (substitute_append_of_not_mem later rest)

/-- What stands for the placeholders of a text has no opening brace. -/
def ValuesPlain (lookup : Text → Option Text) (names : List Text) : Prop :=
  ∀ name ∈ names, '\x7b' ∉ (value? lookup name).getD []

theorem not_mem_substitute {t : Text} (braced : WellBraced none t)
    (plain : ValuesPlain lookup (placeholders t)) : '\x7b' ∉ substitute lookup t := by
  intro member
  obtain ⟨token, read, inside⟩ := List.mem_flatMap.1 member
  cases token with
  | literal text =>
    have stray := braced (.literal text) read
    simp only [Token.isStray, List.contains_eq_mem, decide_eq_false_iff_not] at stray
    exact stray inside
  | placeholder name =>
    exact plain name (List.mem_filterMap.2 ⟨.placeholder name, read, rfl⟩) inside

end

/-! ## §4 Both ways of filling in a template -/

/-- What has been read of the current section, with its bracket. -/
def openedText : (current : Option Text) → Text
  | none => []
  | some inner => '[' :: inner

section
variable {lookup : Text → Option Text}

/-- A section that ends here is filled in alike, at once or with the rest. -/
theorem substitute_resolve_append {inner t : Text} (braced : WellBraced none (inner ++ ']' :: t))
    (plain : ValuesPlain lookup (placeholders inner)) {resolved keep : Text}
    (same : substitute lookup resolved = substitute lookup keep) :
    substitute lookup (Piece.resolve lookup (.optional inner) ++ resolved) =
      substitute lookup (Piece.kept lookup (.optional inner) ++ keep) := by
  have split := substitute_append_of_bracket lookup (.inr rfl) braced
  rcases resolve_optional lookup inner with ⟨dropped, droppedToo⟩ | ⟨stays | filled, stays'⟩
  · rw [dropped, droppedToo]
    exact same
  · rw [stays, stays', split, split, same]
  · have whole := (wellBraced_of_append (.inr rfl) braced).1
    rw [filled, stays', substitute_append_of_not_mem (not_mem_substitute whole plain), split, same]

/-- Sections that were filled in before make no difference to filling in the rest of a template.
Between sections any name may be open; at a section none is. -/
theorem substituteFrom_resolve (current : Option Text) (t : Text) : ∀ {opened : Option Text},
    WellBraced opened (openedText current ++ t) →
    (∀ piece ∈ pieces current t, ValuesPlain lookup piece.names) →
    substituteFrom lookup opened ((pieces current t).flatMap (Piece.resolve lookup)) =
      substituteFrom lookup opened ((pieces current t).flatMap (Piece.kept lookup)) := by
  -- Along the reading of the pieces, whose cases are the ends, the characters and the brackets.
  induction current, t using pieces.induct with
  | case1 => intros; rfl
  | case2 inner => intros; rfl
  | case3 rest ih =>
    intro opened braced plain
    rw [pieces, if_pos rfl] at plain ⊢
    exact ih braced plain
  | case4 c rest other ih =>
    intro opened braced plain
    rw [pieces, if_neg other] at plain ⊢
    have onward := ih (wellBraced_of_cons braced) (List.forall_mem_cons.1 plain).2
    rw [List.flatMap_cons, List.flatMap_cons, Piece.resolve, Piece.kept, List.singleton_append,
        List.singleton_append, substituteFrom_cons, substituteFrom_cons, onward]
  | case5 inner rest ih =>
    intro opened braced plain
    obtain rfl := opened_eq_none_of_bracket braced (.inl rfl)
    have inside : WellBraced none (inner ++ '[' :: rest) := wellBraced_of_cons braced
    rw [pieces, if_pos rfl] at plain ⊢
    have onward := ih (wellBraced_of_append (.inl rfl) inside).2 (List.forall_mem_cons.1 plain).2
    have split := substitute_append_of_bracket lookup (.inl rfl) braced
    rw [List.flatMap_cons, List.flatMap_cons, Piece.resolve, Piece.kept]
    exact (split _).trans ((congrArg _ onward).trans (split _).symm)
  | case6 inner rest notOpening ih =>
    intro opened braced plain
    obtain rfl := opened_eq_none_of_bracket braced (.inl rfl)
    have inside : WellBraced none (inner ++ ']' :: rest) := wellBraced_of_cons braced
    rw [pieces, if_neg notOpening, if_pos rfl] at plain ⊢
    obtain ⟨here, later⟩ := List.forall_mem_cons.1 plain
    have onward := ih (wellBraced_of_cons (wellBraced_of_append (.inr rfl) inside).2) later
    exact substitute_resolve_append inside here onward
  | case7 inner c rest notOpening notClosing ih =>
    intro opened braced plain
    rw [pieces, if_neg notOpening, if_neg notClosing] at plain ⊢
    have same : openedText (some (inner ++ [c])) ++ rest =
        openedText (some inner) ++ c :: rest := by
      simp [openedText]
    exact ih (same ▸ braced) plain

end

/-! ## §5 A section whose values are read again -/

section
variable {lookup : Text → Option Text}

theorem pieces_append_of_not_mem : ∀ {t : Text}, '[' ∉ t → ∀ rest,
    pieces none (t ++ rest) = t.map (fun c => .plain [c]) ++ pieces none rest
  | [], _, _ => rfl
  | c :: t, h, rest => by
    have first : c ≠ '[' := fun same => h (by simp [same])
    have later : '[' ∉ t := fun member => h (List.mem_cons_of_mem _ member)
    rw [List.cons_append, pieces, if_neg first, pieces_append_of_not_mem later]
    rfl

/-- A section ends at the first closing bracket. -/
theorem pieces_section : ∀ {inner : Text}, '[' ∉ inner → ']' ∉ inner → ∀ start rest,
    pieces (some start) (inner ++ ']' :: rest) = .optional (start ++ inner) :: pieces none rest
  | [], _, _, start, rest => by
    rw [List.nil_append, pieces, if_neg (by decide), if_pos rfl, List.append_nil]
  | c :: inner, opening, closing, start, rest => by
    have first : c ≠ '[' := fun same => opening (by simp [same])
    have firstToo : c ≠ ']' := fun same => closing (by simp [same])
    have later := pieces_section (fun member => opening (List.mem_cons_of_mem c member))
      (fun member => closing (List.mem_cons_of_mem c member)) (start ++ [c]) rest
    rw [List.cons_append, pieces, if_neg first, if_neg firstToo, later, List.append_assoc,
        List.singleton_append]

theorem flatMap_resolve_plain (t : Text) :
    (t.map fun c => Piece.plain [c]).flatMap (Piece.resolve lookup) = t := by
  induction t with
  | nil => rfl
  | cons c t ih => rw [List.map_cons, List.flatMap_cons, Piece.resolve, ih, List.singleton_append]

theorem resolve_of_isSome {inner : Text}
    (h : ∃ name ∈ placeholders inner, (value? lookup name).isSome = true) :
    Piece.resolve lookup (.optional inner) = substitute lookup inner := by
  have filled : (placeholders inner).any (fun name => (value? lookup name).isSome) = true :=
    List.any_eq_true.2 h
  obtain ⟨name, member, -⟩ := h
  have named : (placeholders inner).isEmpty = false :=
    List.isEmpty_eq_false_iff_exists_mem.2 ⟨name, member⟩
  rw [Piece.resolve, named, filled]
  rfl

/-- What stands in a section is filled in there, and again with the text around it. -/
theorem render_section {before inner after : Text} (outside : '[' ∉ before ∧ '[' ∉ after)
    (inside : '[' ∉ inner ∧ ']' ∉ inner)
    (kept : ∃ name ∈ placeholders inner, (value? lookup name).isSome = true) :
    render (before ++ '[' :: (inner ++ ']' :: after)) lookup =
      tidy (substitute lookup (before ++ (substitute lookup inner ++ after))) := by
  have read : pieces none (before ++ '[' :: (inner ++ ']' :: after)) =
      before.map (fun c => .plain [c]) ++ .optional inner :: after.map (fun c => .plain [c]) := by
    have last := pieces_append_of_not_mem outside.2 []
    rw [List.append_nil] at last
    rw [pieces_append_of_not_mem outside.1, pieces, if_pos rfl,
        pieces_section inside.1 inside.2, last]
    simp [pieces]
  rw [render, read, List.flatMap_append, List.flatMap_cons, flatMap_resolve_plain,
      flatMap_resolve_plain, resolve_of_isSome kept]

end

/-- **Filling in a template is one pass, unless a value makes a new placeholder.** It is so for any
values where no section has a placeholder; and where all braces enclose names, it is so if no value
that stands in a section has an opening brace. The values of a section are filled in like the
template around it. -/
theorem render_eq_renderOnce (template : Text) (lookup : Text → Option Text) :
    ((∀ piece ∈ pieces none template, piece.names = []) →
      render template lookup = renderOnce template lookup) ∧
    (WellBraced none template →
      (∀ piece ∈ pieces none template, ValuesPlain lookup piece.names) →
        render template lookup = renderOnce template lookup) ∧
    (∀ before inner after, template = before ++ '[' :: (inner ++ ']' :: after) →
      '[' ∉ before ∧ '[' ∉ after → '[' ∉ inner ∧ ']' ∉ inner →
        (∃ name ∈ placeholders inner, (value? lookup name).isSome = true) →
          render template lookup =
            tidy (substitute lookup (before ++ (substitute lookup inner ++ after)))) := by
  refine ⟨fun nameless => ?_, fun braced plain => ?_, ?_⟩
  · have same : (pieces none template).map (Piece.resolve lookup) =
        (pieces none template).map (Piece.kept lookup) :=
      List.map_congr_left fun piece member => resolve_of_names_eq_nil (nameless piece member)
    rw [render, renderOnce, List.flatMap_def, same, List.flatMap_def]
  · exact congrArg tidy (substituteFrom_resolve none template braced plain)
  · rintro before inner after rfl outside inside kept
    exact render_section outside inside kept

/-- An effect, with its cost before it when there is one. -/
def effectTemplate : Text := "[\x7bCOST\x7d: ]\x7bEFFECT\x7d"

/-- The values of an ability with this cost, whose effect is written like a placeholder. -/
def valuesWithCost (cost name : Text) : Option Text :=
  if name = "COST" then some cost else if name = "EFFECT" then some "\x7bcost\x7d" else none

/-- A value outside the sections is not read again; one inside a section is, but only once. -/
theorem render_eq_renderOnce_of_cost :
    (WellBraced none effectTemplate ∧
      (∀ piece ∈ pieces none effectTemplate, ValuesPlain (valuesWithCost "tap") piece.names) ∧
      render effectTemplate (valuesWithCost "tap") =
        renderOnce effectTemplate (valuesWithCost "tap") ∧
      render effectTemplate (valuesWithCost "tap") = "tap: \x7bcost\x7d") ∧
    render effectTemplate (valuesWithCost "\x7beffect\x7d") = "\x7bcost\x7d: \x7bcost\x7d" := by
  have braced : WellBraced none effectTemplate := by decide
  have plain : ∀ piece ∈ pieces none effectTemplate,
      ValuesPlain (valuesWithCost "tap") piece.names := by
    unfold ValuesPlain
    decide
  have once := (render_eq_renderOnce effectTemplate (valuesWithCost "tap")).2.1 braced plain
  have again := (render_eq_renderOnce effectTemplate (valuesWithCost "\x7beffect\x7d")).2.2
    [] "\x7bCOST\x7d: " "\x7bEFFECT\x7d" rfl (by decide) (by decide) (by decide)
  exact ⟨⟨braced, plain, once, by decide⟩, again.trans (by decide)⟩

/-- A value inside a section is read again: a cost that is written like a placeholder without a
value is lost. -/
theorem not_render_eq_renderOnce_of_brace :
    ¬ ∀ template lookup, render template lookup = renderOnce template lookup := by
  intro same
  exact absurd (same effectTemplate (valuesWithCost "\x7bt\x7d")) (by decide)

end AbilityText.Template

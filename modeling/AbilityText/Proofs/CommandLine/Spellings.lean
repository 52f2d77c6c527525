/-
AbilityText.Proofs.CommandLine.Spellings — the two ways of writing an option with its value.

`--game=V` is read where `--game V` is, by a branch of its own (`ofArgument_inline`). That branch
takes the opening `--game=` off as often as it stands there, so it gives the option not V but what
is left of V without such openings (§1). The two spellings agree for every value that does not open
in that way, at every place where an option is read (`run_inline_eq`). `--input=V` is the same with
its own opening.
-/
import AbilityText.Proofs.CommandLine.Places
import AbilityText.Proofs.Text.Words

namespace AbilityText.CommandLine

/-! ## §1 Openings taken off -/

/-- The text is `bare` behind openings, and `bare` has no opening itself. -/
def IsBare (opening t bare : Text) : Prop :=
  (∃ n, t = (List.replicate n opening).flatten ++ bare) ∧ ¬opening <+: bare

theorem isBare_dropOpening {opening : Text} (solid : opening ≠ []) {bound : Nat} {t : Text}
    (h : t.length ≤ bound) : IsBare opening t (dropOpening opening bound t) := by
  have positive : 0 < opening.length := List.length_pos_iff.2 solid
  induction bound generalizing t with
  | zero =>
    rw [List.length_eq_zero_iff.1 (Nat.le_zero.1 h)]
    exact ⟨⟨0, rfl⟩, fun opens => solid (List.prefix_nil.1 opens)⟩
  | succ bound ih =>
    rw [dropOpening]
    split
    · next rest opens =>
      obtain rfl := Text.after?_eq_some opens
      rw [List.length_append] at h
      obtain ⟨⟨n, same⟩, bare⟩ := ih (t := rest) (by omega)
      refine ⟨⟨n + 1, ?_⟩, bare⟩
      rw [List.replicate_succ, List.flatten_cons, List.append_assoc, ← same]
    · next closed =>
      refine ⟨⟨0, rfl⟩, ?_⟩
      rintro ⟨rest, rfl⟩
      rw [Text.after?_append] at closed
      cases closed

/-- What is left without openings is determined by the text. -/
theorem IsBare.unique {opening t bare bare' : Text} (h : IsBare opening t bare)
    (h' : IsBare opening t bare') : bare = bare' := by
  obtain ⟨⟨n, rfl⟩, closed⟩ := h
  obtain ⟨⟨m, same⟩, closed'⟩ := h'
  induction n generalizing m with
  | zero =>
    cases m with
    | zero => exact same
    | succ m =>
      rw [List.replicate_succ, List.flatten_cons, List.append_assoc] at same
      exact absurd ⟨_, same.symm⟩ closed
  | succ n ih =>
    rw [List.replicate_succ, List.flatten_cons, List.append_assoc] at same
    cases m with
    | zero => exact absurd ⟨_, same⟩ closed'
    | succ m =>
      rw [List.replicate_succ, List.flatten_cons, List.append_assoc] at same
      exact ih m (List.append_cancel_left same)

/-- A value without an opening is bare. -/
theorem dropOpening_eq_self {opening t : Text} (h : ¬opening <+: t) (bound : Nat) :
    dropOpening opening bound t = t := by
  cases bound with
  | zero => rfl
  | succ bound => rw [dropOpening, Text.after?_eq_none h]

/-! ## §2 One option in two spellings -/

namespace ValueOption

/-- The arguments that name the option. -/
def names : ValueOption → List Text
  | game => ["--game", "-g"]
  | window => ["--window"]
  | minComponents => ["--min-components"]
  | input => ["--input", "-i"]

/-- What opens an argument that holds the option and its value. -/
def opening (option : ValueOption) : Text := option.name ++ ['=']

end ValueOption

theorem ofArgument_of_mem_names {option : ValueOption} {name : Text} (named : name ∈ option.names)
    (settings : Settings) : Place.ofArgument settings name = .value settings option := by
  cases option <;> simp only [ValueOption.names, List.mem_cons, List.not_mem_nil, or_false] at named
  case game => rcases named with rfl | rfl <;> rfl
  case window => subst named; rfl
  case minComponents => subst named; rfl
  case input => rcases named with rfl | rfl <;> rfl

/-- The option with its value in one argument gives the option what is left of the value. -/
theorem ofArgument_inline {option : ValueOption} (inline : option = .game ∨ option = .input)
    (settings : Settings) (value : Text) :
    Place.ofArgument settings (option.opening ++ value) =
      .ofSettings (option.apply settings (dropOpening option.opening value.length value)) := by
  -- An argument with an equals sign in it is no option name.
  have other : ∀ name : Text, '=' ∉ name → option.opening ++ value ≠ name := by
    intro name free same
    exact free (same ▸ List.mem_append_left _ (List.mem_append_right _ (List.mem_singleton_self _)))
  have noFlag : applyFlag? settings (option.opening ++ value) = none := by
    simp (disch := decide) only [applyFlag?, other, if_false]
  have noName : ValueOption.ofArgument? (option.opening ++ value) = none := by
    simp (disch := decide) only [ValueOption.ofArgument?, other, decide_false, Bool.or_false,
      if_false, Bool.false_eq_true]
  have own : inlineValue? option.opening (option.opening ++ value) =
      some (dropOpening option.opening value.length value) := by
    rw [inlineValue?, Text.after?_append]
    rfl
  rw [Place.ofArgument, noFlag, noName]
  simp (disch := decide) only [other, decide_false, Bool.or_false, if_false, Bool.false_eq_true]
  rcases inline with rfl | rfl
  · have game : ("--game=" : Text) = ValueOption.opening .game := rfl
    rw [game, own]
    rfl
  · have noGame : inlineValue? "--game=" (ValueOption.opening .input ++ value) = none := rfl
    have input : ("--input=" : Text) = ValueOption.opening .input := rfl
    rw [noGame, input, own]
    rfl

/-- Is an option read here, or is what is asked for known already? Elsewhere an argument that looks
like an option is the value of another one, or a word of the text. -/
def Place.readsOption : Place → Bool
  | options _ => true
  | settled _ => true
  | _ => false

theorem resume_inline {option : ValueOption} (inline : option = .game ∨ option = .input)
    {name : Text} (named : name ∈ option.names) {place : Place} (h : place.readsOption = true)
    (value : Text) (after : List Text) :
    place.resume ((option.opening ++ value) :: after) =
      place.resume (name :: dropOpening option.opening value.length value :: after) := by
  cases place with
  | options settings =>
    rw [Place.resume_cons, Place.resume_cons, Place.resume_cons, Place.next, Place.next,
      ofArgument_of_mem_names named, ofArgument_inline inline, Place.next]
  | settled request => rfl
  | value => cases h
  | dashed => cases h
  | text => cases h

/-! ## §3 Runs -/

/-- **The two ways of writing an option with its value.** Wherever an option is read, `--game=V` is
`--game W` and `-g W`, and `--input=V` is `--input W` and `-i W`, where W is V without the openings
`--game=` or `--input=` that stand at its start: exit code and output are the same. For a value that
does not start in that way, V is what is given to the option in either way. -/
theorem run_inline_eq {option : ValueOption} (inline : option = .game ∨ option = .input)
    {name : Text} (named : name ∈ option.names) {terminal : Bool} {before : List Text}
    (place : (placeAfter { color := terminal } before).readsOption = true) (value : Text)
    (after : List Text) (stdin : Option Text) (elapsed : Text) :
    (∃ bare, IsBare option.opening value bare ∧
      run (before ++ (option.opening ++ value) :: after) stdin terminal elapsed =
        run (before ++ name :: bare :: after) stdin terminal elapsed) ∧
    (¬option.opening <+: value →
      run (before ++ (option.opening ++ value) :: after) stdin terminal elapsed =
        run (before ++ name :: value :: after) stdin terminal elapsed) := by
  have requests := resume_inline inline named place value after
  rw [← readArguments_append, ← readArguments_append] at requests
  have runs : run (before ++ (option.opening ++ value) :: after) stdin terminal elapsed =
      run (before ++ name :: dropOpening option.opening value.length value :: after)
        stdin terminal elapsed := by
    rw [run, requests]
    rfl
  constructor
  · have solid : option.opening ≠ [] := by simp [ValueOption.opening]
    exact ⟨_, isBare_dropOpening solid (Nat.le_refl _), runs⟩
  · intro plain
    rw [runs, dropOpening_eq_self plain]

/-- A value that looks like an option stands behind an option with a value and in front of the text.
It names the game, and is not read as an option. -/
theorem run_inline_eq_listGames :
    let before : List Text := ["--window", "3"]
    let value : Text := "--list-games"
    let inline := run (before ++ (ValueOption.opening .game ++ value) :: ["draw"]) none false []
    (placeAfter { color := false } before).readsOption = true ∧
      ¬ValueOption.opening .game <+: value ∧
      inline = run (before ++ ("-g" : Text) :: value :: ["draw"]) none false [] ∧
      inline.code = 1 := by
  dsimp only
  have place : (placeAfter { color := false } ["--window", "3"]).readsOption = true := by decide
  have plain : ¬ValueOption.opening .game <+: ("--list-games" : Text) := by decide
  have named : ("-g" : Text) ∈ ValueOption.names .game := by decide
  refine ⟨place, plain, ?_, by decide +kernel⟩
  exact (run_inline_eq (.inl rfl) named place _ _ _ _).2 plain

/-- A value that opens as the option does loses its opening in the one spelling only: there Snap is
played, and in the other there is no such game. -/
theorem run_inline_ne_of_opening :
    ¬∀ (before after : List Text) (value : Text) (stdin : Option Text) (terminal : Bool)
      (elapsed : Text), (placeAfter { color := terminal } before).readsOption = true →
      run (before ++ (ValueOption.opening .game ++ value) :: after) stdin terminal elapsed =
        run (before ++ ("--game" : Text) :: value :: after) stdin terminal elapsed := by
  intro same
  have codes := congrArg Result.code (same [] ["draw"] "--game=snap" none false [] rfl)
  exact absurd codes (by decide +kernel)

end AbilityText.CommandLine

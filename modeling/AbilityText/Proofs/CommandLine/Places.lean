/-
AbilityText.Proofs.CommandLine.Places — reading the arguments one at a time.

Behind each argument the reader is at one of five places: before an option, before the value of an
option, in the text that two dashes or a first word opened, or done. One argument leads from a place
to the next (`resume_cons`), so the arguments before a point matter for those behind it through the
place alone (`readArguments_append`).
-/
import AbilityText.CommandLine

namespace AbilityText.CommandLine

/-- Where the reader of arguments stands. -/
inductive Place
  /-- The next argument is an option, or else opens the text. -/
  | options (settings : Settings)
  /-- The next argument is the value of an option. -/
  | value (settings : Settings) (option : ValueOption)
  /-- Two dashes made all later arguments words of the text; these are read. -/
  | dashed (settings : Settings) (words : List Text)
  /-- The first of these words made all later arguments words of the text. -/
  | text (settings : Settings) (words : List Text)
  /-- What is asked for is known, whatever follows. -/
  | settled (request : Except Refusal Request)

namespace Place

/-- The place behind an option that was read or refused. -/
def ofSettings : Except Refusal Settings → Place
  | .ok settings => options settings
  | .error refusal => settled (.error refusal)

/-- The place behind an argument that stands where an option may stand. -/
def ofArgument (settings : Settings) (argument : Text) : Place :=
  if argument = ("-h" : Text) || argument = ("--help" : Text) then settled (.ok .help)
  else if argument = ("-V" : Text) || argument = ("--version" : Text) then settled (.ok .version)
  else match applyFlag? settings argument with
  | some settings => options settings
  | none =>
    match ValueOption.ofArgument? argument with
    | some option => value settings option
    | none =>
      if argument = ("--" : Text) then dashed settings []
      else
        match inlineValue? "--game=" argument, inlineValue? "--input=" argument with
        | some given, _ => options { settings with game := given }
        | none, some given => ofSettings (settings.withInput given)
        | none, none =>
          if argument.head? = some '-' then settled (.error (.unknownOption argument))
          else text settings [argument]

/-- The place behind one more argument. -/
def next : Place → Text → Place
  | options settings, argument => ofArgument settings argument
  | value settings option, argument => ofSettings (option.apply settings argument)
  | dashed settings words, argument => dashed settings (words ++ [argument])
  | text settings words, argument => text settings (words ++ [argument])
  | settled request, _ => settled request

/-- What is asked for when nothing follows. -/
def finish : Place → Except Refusal Request
  | options settings => .ok (.work settings)
  | value _ option => .error (.missingValue option.name)
  | dashed settings words =>
    if Text.isBlank (Text.unwords words) then .ok (.work settings)
    else (settings.withInput (Text.unwords words)).map .work
  | text settings words => (settings.withInput (Text.unwords words)).map .work
  | settled request => request

/-- What is asked for when these arguments follow. -/
def resume : Place → List Text → Except Refusal Request
  | options settings, arguments => readArguments settings arguments
  | value _ option, [] => .error (.missingValue option.name)
  | value settings option, argument :: rest =>
    (option.apply settings argument).bind fun settings => readArguments settings rest
  | dashed settings words, arguments => finish (dashed settings (words ++ arguments))
  | text settings words, arguments => finish (text settings (words ++ arguments))
  | settled request, _ => request

theorem resume_nil (place : Place) : place.resume [] = place.finish := by
  cases place <;> simp [resume, finish, readArguments]

theorem resume_ofSettings (settings : Except Refusal Settings) (arguments : List Text) :
    (ofSettings settings).resume arguments =
      settings.bind fun settings => readArguments settings arguments := by
  cases settings <;> rfl

theorem resume_ofArgument (settings : Settings) (argument : Text) (rest : List Text) :
    (ofArgument settings argument).resume rest = readArguments settings (argument :: rest) := by
  rw [ofArgument, readArguments]
  split
  · rfl
  · split
    · rfl
    · cases applyFlag? settings argument with
      | some settings => rfl
      | none =>
        cases ValueOption.ofArgument? argument with
        | some option => cases rest <;> rfl
        | none =>
          dsimp only
          split
          · rfl
          · cases inlineValue? "--game=" argument with
            | some given => rfl
            | none =>
              cases inlineValue? "--input=" argument with
              | some given => exact resume_ofSettings _ _
              | none =>
                dsimp only
                split <;> rfl

/-- Reading an argument leads to the next place. -/
theorem resume_cons (place : Place) (argument : Text) (rest : List Text) :
    place.resume (argument :: rest) = (place.next argument).resume rest := by
  cases place with
  | options settings => exact (resume_ofArgument settings argument rest).symm
  | value settings option => exact (resume_ofSettings _ _).symm
  | dashed settings words => simp only [resume, next, List.append_assoc, List.singleton_append]
  | text settings words => simp only [resume, next, List.append_assoc, List.singleton_append]
  | settled request => rfl

theorem resume_append (place : Place) (before after : List Text) :
    place.resume (before ++ after) = (before.foldl next place).resume after := by
  induction before generalizing place with
  | nil => rfl
  | cons argument before ih => rw [List.cons_append, resume_cons, ih, List.foldl_cons]

end Place

/-- The place behind several arguments. -/
def placeAfter (settings : Settings) (arguments : List Text) : Place :=
  arguments.foldl Place.next (.options settings)

/-- **Arguments matter for later ones through the place alone.** -/
theorem readArguments_append (settings : Settings) (before after : List Text) :
    readArguments settings (before ++ after) = (placeAfter settings before).resume after :=
  (Place.options settings).resume_append before after

/-- What the arguments ask for is known at the place behind the last of them. -/
theorem readArguments_eq_finish (settings : Settings) (arguments : List Text) :
    readArguments settings arguments = (placeAfter settings arguments).finish := by
  have whole := readArguments_append settings arguments []
  rwa [List.append_nil, Place.resume_nil] at whole

end AbilityText.CommandLine

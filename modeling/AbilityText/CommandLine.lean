/-
AbilityText.CommandLine — the command line as a function from its arguments and its input to what it
prints and its exit code.
-/
import AbilityText.CommandLine.Arguments
import AbilityText.CommandLine.Layout

namespace AbilityText.CommandLine

/-- What a run of the program leaves. -/
structure Result where
  code : Nat
  stdout : Text
  stderr : Text
deriving DecidableEq

namespace Result

/-- A run that succeeded. -/
def success (stdout : Text) : Result := ⟨0, stdout, []⟩

/-- A run that failed, with a message on a line. -/
def failure (code : Nat) (message : Text) : Result := ⟨code, [], message ++ ['\n']⟩

end Result

/-- The text to work on: the one among the arguments, or else the standard input, which is `none`
when it is not valid text. A blank text is refused. -/
def inputOf (settings : Settings) (stdin : Option Text) : Except Refusal Text := do
  let text ←
    match settings.input, stdin with
    | some text, _ => .ok text
    | none, some text => .ok text
    | none, none => .error .unreadableInput
  if Text.isBlank text then .error .noInput else .ok text

/-- The work that the settings ask for, with the built-in games. -/
def work (settings : Settings) (stdin : Option Text) (elapsed : Text) : Result :=
  match settings.mode with
  | .listGames => .success (unlines Registry.builtIn.games)
  | .sentences =>
    match inputOf settings stdin with
    | .error refusal => .failure 2 refusal.message
    | .ok text => .success (sentencesLayout settings.color .builtIn text)
  | .parse =>
    match inputOf settings stdin with
    | .error refusal => .failure 2 refusal.message
    | .ok text =>
      match Registry.builtIn.report settings.options text settings.game with
      | .error e => .failure 1 ("error: " ++ e.message)
      | .ok report => .success (parseLayout settings.color elapsed report)

/-- Does the answer to a request depend on the standard input? -/
def needsInput : Except Refusal Request → Bool
  | .ok (.work settings) => settings.mode != .listGames && settings.input.isNone
  | _ => false

/-- The answer to a request. -/
def answer (request : Except Refusal Request) (stdin : Option Text) (elapsed : Text) : Result :=
  match request with
  | .error refusal => .failure 2 refusal.message
  | .ok .help => .success (helpText ++ ['\n'])
  | .ok .version => .success (versionLine ++ ['\n'])
  | .ok (.work settings) => work settings stdin elapsed

/-- The program: colours are on at the start when the output is a terminal. Its arguments are texts
in Unicode, since no others reach it, and the filter of its log is the default one, which lets
nothing through that a run logs. -/
def run (arguments : List Text) (stdin : Option Text) (terminal : Bool) (elapsed : Text) : Result :=
  answer (readArguments { color := terminal } arguments) stdin elapsed

end AbilityText.CommandLine

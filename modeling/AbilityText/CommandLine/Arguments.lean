/-
AbilityText.CommandLine.Arguments — the arguments of the command line.

Arguments are read from left to right. Help and version answer at once; two dashes or the first
argument that is no option make the rest the text.
-/
import AbilityText.Text.Letter
import AbilityText.Text.Space
import AbilityText.Trace

namespace AbilityText.CommandLine

/-- What is to be done. -/
inductive Mode
  | parse
  | sentences
  | listGames
deriving DecidableEq, Repr

/-- The settings that the arguments give. -/
structure Settings where
  input : Option Text := none
  game : Text := "magic"
  options : ParseOptions := {}
  mode : Mode := .parse
  color : Bool
deriving DecidableEq

/-- What the arguments ask for. -/
inductive Request
  | help
  | version
  | work (settings : Settings)
deriving DecidableEq

/-- Why a request is refused. -/
inductive Refusal
  /-- An option stands at the end without its value. -/
  | missingValue (option : Text)
  /-- The value of an option is no natural number. -/
  | badCount (option value : Text)
  /-- There is a second text. -/
  | repeatedInput
  /-- There is no such option. -/
  | unknownOption (argument : Text)
  /-- The standard input is not valid text. -/
  | unreadableInput
  /-- There is no text, or a blank one. -/
  | noInput
deriving DecidableEq, Repr

/-- The name and version of the program. -/
def versionLine : Text := "tcg-targeting 0.1.0"

/-- The help text. -/
def helpText : Text :=
  versionLine ++ "

Parse trading-card ability text into targeting chains.

Usage:
  tcg-targeting [OPTIONS] [--] <ability text...>
  tcg-targeting [OPTIONS] --input <text>
  tcg-targeting --list-games

Options:
  -g, --game <key>           Game dialect to parse with. Default: magic
  -i, --input <text>         Ability text. If omitted, reads remaining args
                             or stdin when no args are provided.
  --sentence                 Classify each sentence with the game-agnostic
                             heuristics instead of a dialect.
  --window <n>               Longest phrase (in words) tried against a table.
  --min-components <n>       Discard chains smaller than this.
  --list-games               Print the registered game keys.
  --color                    Force ANSI color output.
  --no-color                 Disable ANSI color output.
  -h, --help                 Show this help message.
  -V, --version              Print version information.

Environment:
  RUST_LOG                   Log filter (default: warn).

Exit codes:
  0  Success.
  1  Unsupported game.
  2  Invalid arguments or missing input.
"

/-- The message of a refusal. -/
def Refusal.message (refusal : Refusal) : Text :=
  let detail : Text :=
    match refusal with
    | .missingValue option => option ++ " expects a value"
    | .badCount option value =>
      "invalid " ++ option ++ " '" ++ value ++ "' (expected a non-negative integer)"
    | .repeatedInput => "input provided multiple times"
    | .unknownOption argument => "unknown option '" ++ argument ++ "'"
    | .unreadableInput => "failed to read stdin: stream did not contain valid UTF-8"
    | .noInput => "no input provided\n\n" ++ helpText
  "error: " ++ detail

/-- The number that a text spells, when it fits into 64 bits. -/
def count? (t : Text) : Option Nat := Text.unsigned? UInt64.size t

/-- The count that is the value of an option. -/
def readCount (option value : Text) : Except Refusal Nat :=
  match count? value with
  | some n => .ok n
  | none => .error (.badCount option value)

/-- The settings with a text, unless they have one. -/
def Settings.withInput (settings : Settings) (input : Text) : Except Refusal Settings :=
  if settings.input.isSome then .error .repeatedInput
  else .ok { settings with input := some input }

/-- What is left of a text when an opening is taken off as often as it stands there, at most `bound`
times. -/
def dropOpening (opening : Text) : (bound : Nat) → Text → Text
  | 0, t => t
  | bound + 1, t =>
    match Text.after? opening t with
    | some rest => dropOpening opening bound rest
    | none => t

/-- The text after `--name=`; a value that opens with the same words again loses them too. -/
def inlineValue? (opening argument : Text) : Option Text :=
  (Text.after? opening argument).map fun rest => dropOpening opening rest.length rest

/-- The options without a value: the settings that one leads to. -/
def applyFlag? (settings : Settings) (argument : Text) : Option Settings :=
  if argument = ("--color" : Text) then some { settings with color := true }
  else if argument = ("--no-color" : Text) then some { settings with color := false }
  else if argument = ("--list-games" : Text) then some { settings with mode := .listGames }
  else if argument = ("--sentence" : Text) then some { settings with mode := .sentences }
  else none

/-- The options whose value is the next argument. -/
inductive ValueOption
  | game
  | window
  | minComponents
  | input
deriving DecidableEq, Repr

namespace ValueOption

/-- The option that an argument names. -/
def ofArgument? (argument : Text) : Option ValueOption :=
  if argument = ("--game" : Text) || argument = ("-g" : Text) then some .game
  else if argument = ("--window" : Text) then some .window
  else if argument = ("--min-components" : Text) then some .minComponents
  else if argument = ("--input" : Text) || argument = ("-i" : Text) then some .input
  else none

/-- The long name of an option. -/
def name : ValueOption → Text
  | .game => "--game"
  | .window => "--window"
  | .minComponents => "--min-components"
  | .input => "--input"

/-- The settings after an option with its value. -/
def apply (settings : Settings) (option : ValueOption) (value : Text) : Except Refusal Settings :=
  match option with
  | .game => .ok { settings with game := value }
  | .window => do
    let n ← readCount option.name value
    return { settings with options := { settings.options with window := some n } }
  | .minComponents => do
    let n ← readCount option.name value
    return { settings with options := { settings.options with minComponents := some n } }
  | .input => settings.withInput value

end ValueOption

/-- The request of the arguments that are still to be read. -/
def readArguments (settings : Settings) : List Text → Except Refusal Request
  | [] => .ok (.work settings)
  | argument :: rest =>
    if argument = ("-h" : Text) || argument = ("--help" : Text) then .ok .help
    else if argument = ("-V" : Text) || argument = ("--version" : Text) then .ok .version
    else match applyFlag? settings argument with
    | some settings => readArguments settings rest
    | none =>
      match ValueOption.ofArgument? argument with
      | some option =>
        match rest with
        | [] => .error (.missingValue option.name)
        | value :: more => (option.apply settings value).bind fun s => readArguments s more
      | none =>
        if argument = ("--" : Text) then
          let text := Text.unwords rest
          if Text.isBlank text then .ok (.work settings)
          else (settings.withInput text).map .work
        else
          match inlineValue? "--game=" argument, inlineValue? "--input=" argument with
          | some value, _ => readArguments { settings with game := value } rest
          | none, some value => (settings.withInput value).bind fun s => readArguments s rest
          | none, none =>
            if argument.head? = some '-' then .error (.unknownOption argument)
            else (settings.withInput (Text.unwords (argument :: rest))).map .work

end AbilityText.CommandLine

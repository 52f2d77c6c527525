/-
AbilityText.ParseReport — the parse of a text for a game of a registry: the chain with its verdict,
and, on request, how it came about and what is wrong with it.
-/
import AbilityText.Validator

namespace AbilityText

/-- Why a parse produced what it did: the text was blank, nothing was recognised, what was
recognised was too little, or there is a chain. -/
inductive Outcome
  | empty
  | nothingMatched
  | tooFewComponents
  | matched
deriving DecidableEq, Repr

/-- The outcome of a run on a text. -/
def Outcome.of (text : Text) (run : Run) : Outcome :=
  if Text.isBlank text then .empty
  else if run.trace.discarded then .tooFewComponents
  else if run.chain.isEmpty then .nothingMatched
  else .matched

/-- The result of a parse. -/
structure ParseResult where
  text : Text
  game : Text
  chain : Chain
  valid : Bool
  outcome : Outcome
deriving DecidableEq

/-- The result of a parse with its record, what is wrong with the chain, and the chain written out
again. -/
structure ParseReport extends ParseResult where
  trace : Trace
  errors : List Text
  generated : Text
deriving DecidableEq

namespace GameParser

/-- The result that a run on a text amounts to. -/
def resultOf (parser : GameParser) (text : Text) (run : Run) : ParseResult :=
  { text
    game := parser.game
    chain := run.chain
    valid := parser.isValid run.chain
    outcome := .of text run }

/-- The descriptions of the rules of the game that fail; for a chain with components also the errors
of the standard validator that are not among them. -/
def diagnose (parser : GameParser) (chain : Chain) : List Text :=
  let failing := (parser.rules.filter fun rule => !rule.validate chain).map Rule.description
  if chain.isEmpty then failing
  else (Validator.standard.errors chain).foldl
    (fun errors e => if errors.contains e then errors else errors ++ [e]) failing

end GameParser

namespace Registry

/-- The parse of a text for a game. -/
def parse (registry : Registry) (options : ParseOptions) (text game : Text) :
    Except RegistryError ParseResult := do
  let parser ← registry.get game
  return parser.resultOf text (parser.run options text)

/-- The parse of a text for a game with everything there is to say about it. -/
def report (registry : Registry) (options : ParseOptions) (text game : Text) :
    Except RegistryError ParseReport := do
  let parser ← registry.get game
  let run := parser.run options text
  return { parser.resultOf text run with
    trace := run.trace
    errors := parser.diagnose run.chain
    generated := parser.generate run.chain }

end Registry

end AbilityText

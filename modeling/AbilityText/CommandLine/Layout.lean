/-
AbilityText.CommandLine.Layout — how the command line shows a parse or the sentences of a text.
-/
import AbilityText.ParseReport
import AbilityText.Rulebook

namespace AbilityText.CommandLine

/-! ## Colours -/

/-- A way of showing text on a terminal. -/
inductive Style
  | bold
  | dim
  | red
  | green
  | yellow
  | blue
  | cyan
  | gray
deriving DecidableEq, Repr

/-- The control sequence that switches a style on. -/
def Style.code : Style → Text
  | .bold => "\x1b[1m"
  | .dim => "\x1b[2m"
  | .red => "\x1b[31m"
  | .green => "\x1b[32m"
  | .yellow => "\x1b[33m"
  | .blue => "\x1b[34m"
  | .cyan => "\x1b[36m"
  | .gray => "\x1b[90m"

/-- The text in a style, or as it is when colours are off. -/
def paint (color : Bool) (style : Style) (t : Text) : Text :=
  if color then style.code ++ t ++ "\x1b[0m" else t

/-- The text with spaces after it up to a width. -/
def padTo (width : Nat) (t : Text) : Text := t ++ List.replicate (width - t.length) ' '

/-- Lines with the line ends after them. -/
def unlines (lines : List Text) : Text := lines.flatMap fun line => line ++ ['\n']

/-! ## Parts of a report -/

/-- A section heading with an empty line before it. -/
def heading (color : Bool) (title : Text) : List Text :=
  [[], paint color .gray ("━━━ " ++ title ++ " ━━━")]

/-- The components of a chain, one on a line. -/
def chainLines (color : Bool) (chain : Chain) : List Text :=
  if chain.isEmpty then ["    " ++ paint color .dim "(empty)"]
  else chain.components.map fun c =>
    "    " ++ paint color .blue c.category.toTag ++ " " ++ paint color .dim "│" ++ " " ++
      paint color .green c.text

/-- A match on a line: its category, its phrase, and its text when that is another. -/
def matchLine (color : Bool) (m : Match) : Text :=
  let arrow : Text :=
    if m.phrase = m.text then []
    else " " ++ paint color .dim "→" ++ " " ++ paint color .green m.text
  "  " ++ paint color .yellow (padTo 12 m.category.toTag) ++ " " ++ m.phrase ++ arrow

/-- The clauses with the keyword before them. -/
def clauseLines (color : Bool) (trace : Trace) : List Text :=
  let keyword : List Text :=
    match trace.shortcut with
    | some word => ["  " ++ paint color .blue "keyword:" ++ " " ++ paint color .bold word]
    | none => []
  keyword ++ trace.clauses.mapIdx fun i clause =>
    "  " ++ paint color .gray ("[" ++ Text.ofNat i ++ "]") ++ " " ++ clause

/-- The matches and the words that were dropped. -/
def matchLines (color : Bool) (trace : Trace) : List Text :=
  let found : List Text :=
    if trace.found.isEmpty then [paint color .dim "  No phrase matched"]
    else trace.found.map (matchLine color)
  let dropped : List Text :=
    if trace.dropped.isEmpty then []
    else ["  " ++ paint color .dim "dropped:" ++ " " ++
      paint color .dim (Text.unwords trace.dropped)]
  found ++ dropped

/-- The chain, or why there is none. -/
def outcomeLines (color : Bool) (result : ParseResult) : List Text :=
  match result.outcome with
  | .matched => chainLines color result.chain
  | .empty => [paint color .dim "  Empty input"]
  | .nothingMatched =>
    [paint color .dim "  Empty chain", [], paint color .yellow "Possible reasons:",
     "  • No word is in this game's vocabulary",
     "  • Values fell outside the game's numeric bounds", [],
     paint color .dim "  Tip: Set RUST_LOG=tcg_targeting=trace to see every dropped token"]
  | .tooFewComponents =>
    [paint color .dim "  Empty chain", [],
     paint color .yellow
       "Matched components were discarded: chain under the minimum size"]

/-- One thing that is wrong, on a line. -/
def errorLine (color : Bool) (e : Text) : Text := "    " ++ paint color .yellow "•" ++ " " ++ e

/-- The verdict with what is wrong, and the chain written out again. -/
def verdictLines (color : Bool) (report : ParseReport) : List Text :=
  let verdict :=
    if report.valid then paint color .green "✓ valid" else paint color .red "✗ invalid"
  let generated : List Text :=
    if report.generated.isEmpty then []
    else ["  " ++ paint color .dim "generated:" ++ " " ++ paint color .bold report.generated]
  (("  " : Text) ++ verdict) ::
    report.errors.map (errorLine color) ++ generated

/-! ## Reports -/

/-- The title of a report. -/
def title (color : Bool) (subject text : Text) : Text :=
  paint color .bold
    (paint color .cyan ("⚙  " ++ subject ++ ": \"" ++ Text.trim text ++ "\""))

/-- The title of the report of a parse, with the game. -/
def parseTitle (color : Bool) (report : ParseReport) : Text :=
  title color "Parsing" report.text ++ " " ++ paint color .dim ("[" ++ report.game ++ "]")

/-- The line of the time taken and the number of words. -/
def timingLine (color : Bool) (elapsed : Text) (trace : Trace) : Text :=
  "  Total: " ++ paint color .green elapsed ++ "  │  Tokens: " ++
    paint color .cyan (Text.ofNat trace.tokens)

/-- The report of a parse that took the time `elapsed`. -/
def parseLayout (color : Bool) (elapsed : Text) (report : ParseReport) : Text :=
  unlines <|
    [[], parseTitle color report] ++
    heading color "Clauses" ++ clauseLines color report.trace ++
    heading color "Matches" ++ matchLines color report.trace ++
    heading color "Chain" ++ outcomeLines color report.toParseResult ++
    heading color "Verdict" ++ verdictLines color report ++
    heading color "Timing" ++ [timingLine color elapsed report.trace, []]

/-- A sentence with its kind, and its chain. -/
def sentenceLines (color : Bool) (book : Rulebook) (sentence : Text) : List Text :=
  let (kind, chain) := book.analyse sentence
  let line : Text := "  " ++ paint color .blue ("[" ++ kind.name ++ "]") ++ " " ++ sentence
  [] :: line :: chainLines color chain

/-- The sentences of a text with their kinds and chains, and the chains written out again. -/
def sentencesLayout (color : Bool) (book : Rulebook) (text : Text) : Text :=
  let generated : Text := "  " ++ paint color .bold (book.generate (book.chainsOf text))
  unlines <|
    [[], title color "Sentences" text] ++
    (Sentence.split text).flatMap (sentenceLines color book) ++
    heading color "Generated" ++ [generated, []]

end AbilityText.CommandLine

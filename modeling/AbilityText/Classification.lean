/-
AbilityText.Classification — how a dialect reads ability text.

A text may open with keywords that a colon follows. The rest is cut into clauses. A clause that
opens with a capturing phrase is one component; in every other clause the steps of the dialect are
tried at each word, the first step that succeeds takes its phrase, and a word that no step claims
is dropped.

What a phrase means can depend on the effects and types that were read before it, and on nothing
else.
-/
import AbilityText.Clause
import AbilityText.Dialect
import AbilityText.Trace

namespace AbilityText

/-! ## What earlier matches mean for later words -/

/-- The text of the last effect and the texts of all types so far. -/
structure Context where
  effect : Option Text := none
  types : List Text := []
deriving DecidableEq

namespace Context

/-- The context after one more finding. -/
def after (ctx : Context) : Finding → Context
  | .matched m =>
    match m.category with
    | .effect => { ctx with effect := some m.text }
    | .type => { ctx with types := ctx.types ++ [m.text] }
    | _ => ctx
  | _ => ctx

/-- The context after several findings. -/
def afterAll (ctx : Context) (findings : List Finding) : Context := findings.foldl after ctx

end Context

namespace Dialect

/-! ## One phrase -/

/-- Does the gating of the game admit a type or a direction here? -/
def admits (d : Dialect) (ctx : Context) (category : Category) (text : Text) : Bool :=
  match d.gating with
  | none => true
  | some gating =>
    let effect := ctx.effect.getD []
    match category with
    | .type => gating.spellEffects.contains effect == gating.spellTypes.contains text
    | .direction =>
      if text = ("random" : Text) then gating.randomEffects.contains effect
      else if text = ("another" : Text) then ctx.types.any fun t => gating.anotherTypes.contains t
      else true
    | _ => true

/-- The canonical text of a phrase, given by its words: as it stands, or else with the first
singular form of its last word that the table knows. -/
def resolve? (d : Dialect) (category : Category) (phrase : List Text) : Option Text :=
  match d.vocabulary.lookup category (Text.unwords phrase) with
  | some text => some text
  | none =>
    (Clause.singulars (phrase.getLast?.getD [])).findSome? fun form =>
      d.vocabulary.lookup category (Text.unwords (phrase.dropLast ++ [form]))

/-- What a step makes of the words at a position: a category, a text, and how many words it takes.
-/
structure Claim where
  category : Category
  text : Text
  length : Nat
deriving DecidableEq

/-- The claim of a table on the longest phrase of at most `longest` words that it resolves and that
the gating admits. -/
def longestPhrase? (d : Dialect) (ctx : Context) (category : Category) (words : List Text) :
    (longest : Nat) → Option Claim
  | 0 => none
  | n + 1 =>
    match d.resolve? category (words.take (n + 1)) with
    | some text =>
      if d.admits ctx category text then some ⟨category, text, n + 1⟩
      else d.longestPhrase? ctx category words n
    | none => d.longestPhrase? ctx category words n

/-- The claim of a table at a position, in a window of words. -/
def tableClaim? (d : Dialect) (window : Nat) (ctx : Context) (category : Category)
    (words : List Text) : Option Claim :=
  d.longestPhrase? ctx category words (min window words.length)

/-- The claim of the numeric policy at a position: a number after an effect that takes one. -/
def numberClaim? (d : Dialect) (ctx : Context) (words : List Text) : Option Claim :=
  match words, ctx.effect with
  | word :: later, some effect =>
    if d.takesNumber effect && d.numeric.accepts word then
      some ⟨d.numeric.categoryBefore later.head?, word, 1⟩
    else none
  | _, _ => none

/-- The claim of a step at a position. -/
def stepClaim? (d : Dialect) (window : Nat) (ctx : Context) (words : List Text) :
    Step → Option Claim
  | .table category => d.tableClaim? window ctx category words
  | .number => d.numberClaim? ctx words

/-- The claim that wins at a position. After a subject marker a type comes first; otherwise the
first step of the dialect's order that has a claim. -/
def bestClaim? (d : Dialect) (window : Nat) (ctx : Context) (previous : Option Text)
    (words : List Text) : Option Claim :=
  let subject :=
    if previous.any d.subjectMarkers.contains then d.tableClaim? window ctx .type words else none
  match subject with
  | some claim => some claim
  | none => d.order.findSome? (d.stepClaim? window ctx words)

/-! ## The words of a clause -/

/-- The findings of a list of words, left to right. `taken` counts the words that still belong to
the phrase read last; `previous` is the word before the list. -/
def readWords (d : Dialect) (window : Nat) :
    (ctx : Context) → (previous : Option Text) → (taken : Nat) → List Text → List Finding
  | _, _, _, [] => []
  | ctx, _, taken + 1, word :: rest => d.readWords window ctx (some word) taken rest
  | ctx, previous, 0, word :: rest =>
    match d.bestClaim? window ctx previous (word :: rest) with
    | none => .dropped word :: d.readWords window ctx (some word) 0 rest
    | some claim =>
      let phrase := Text.unwords ((word :: rest).take claim.length)
      let finding := Finding.ofPhrase phrase claim.category claim.text
      finding :: d.readWords window (ctx.after finding) (some word) (claim.length - 1) rest

/-- The category of the first capturing phrase that opens the words. -/
def capture? (d : Dialect) (words : List Text) : Option Category :=
  (d.captures.find? fun capture => (Text.words capture.1).isPrefixOf words).map Prod.snd

/-- The findings of a clause, given by its words. -/
def readClause (d : Dialect) (window : Nat) (ctx : Context) (words : List Text) : List Finding :=
  if words.isEmpty then []
  else match d.capture? words with
    | some category => [.ofPhrase (Text.unwords words) category (Text.unwords words)]
    | none => d.readWords window ctx none 0 words

/-- A clause with its words and what was found in them. -/
structure ClauseReading where
  clause : Text
  words : List Text
  findings : List Finding
deriving DecidableEq

/-- The readings of clauses in order, each in the context that the earlier ones leave. -/
def readClauses (d : Dialect) (window : Nat) : Context → List Text → List ClauseReading
  | _, [] => []
  | ctx, clause :: rest =>
    let words := Clause.words clause
    let findings := d.readClause window ctx words
    ⟨clause, words, findings⟩ :: d.readClauses window (ctx.afterAll findings) rest

/-! ## Keywords before a colon -/

/-- The first declared keyword that opens the text before a colon, with what follows the colon. -/
def opening? (d : Dialect) (t : Text) : Option (Text × Category × Text) :=
  d.openings.findSome? fun opening =>
    ((Text.after? opening.1 t).bind fun rest => Text.after? ":" (Text.trimStart rest)).map
      fun body => (opening.1, opening.2, Text.trim body)

/-- The keywords that open a text one after another, and the rest of the text. Each keyword takes a
colon at least, so the length of the text bounds their number. -/
def openingsWithin (d : Dialect) : (bound : Nat) → Text → List (Text × Category) × Text
  | 0, t => ([], t)
  | bound + 1, t =>
    match d.opening? t with
    | none => ([], t)
    | some (keyword, category, body) =>
      let more := d.openingsWithin bound body
      ((keyword, category) :: more.1, more.2)

/-- The keywords that open a text, and its body. -/
def openingsOf (d : Dialect) (t : Text) : List (Text × Category) × Text :=
  d.openingsWithin t.length t

/-! ## The whole text -/

/-- A text as the dialect reads it: the keywords that open it with their findings, and its clauses.
-/
structure Reading where
  keywords : List (Text × Finding)
  clauses : List ClauseReading
deriving DecidableEq

namespace Reading

/-- All findings in reading order. -/
def findings (reading : Reading) : List Finding :=
  reading.keywords.map Prod.snd ++ reading.clauses.flatMap ClauseReading.findings

/-- The matches in reading order. -/
def found (reading : Reading) : List Match := reading.findings.filterMap Finding.match?

/-- The record of the reading. -/
def trace (reading : Reading) : Trace :=
  { clauses := reading.clauses.map ClauseReading.clause
    tokens := (reading.clauses.flatMap ClauseReading.words).length
    found := reading.found
    dropped := reading.findings.filterMap Finding.dropped?
    shortcut := (reading.keywords.head?).map Prod.fst }

/-- The chain of the components that were found. -/
def chain (reading : Reading) : Chain := .ofList (reading.found.map Match.component)

end Reading

/-- The reading of a text that is in lower case and without white space around it. -/
def read (d : Dialect) (window : Nat) (t : Text) : Reading :=
  let (openings, body) := d.openingsOf t
  let keywords := openings.map fun opening =>
    (opening.1, Finding.ofPhrase opening.1 opening.2 opening.1)
  { keywords
    clauses := d.readClauses window (Context.afterAll {} (keywords.map Prod.snd))
      (Clause.ofText body) }

/-- The phrase window of a parse: at least one word. -/
def windowFor (d : Dialect) (options : ParseOptions) : Nat :=
  max 1 (options.window.getD d.window)

/-- The smallest size of a chain that a parse keeps. -/
def minimumFor (d : Dialect) (options : ParseOptions) : Nat :=
  options.minComponents.getD d.minComponents

/-- The parse of a text. A chain under the minimum size is discarded; its matches stay on record. -/
def classify (d : Dialect) (options : ParseOptions) (text : Text) : Run :=
  let reading := d.read (d.windowFor options) (Text.lower (Text.trim text))
  let chain := reading.chain
  if !chain.isEmpty && chain.size < d.minimumFor options then
    ⟨.empty, { reading.trace with discarded := true }⟩
  else ⟨chain, reading.trace⟩

end Dialect

end AbilityText

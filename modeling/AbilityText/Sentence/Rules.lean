/-
AbilityText.Sentence.Rules — the shapes of rules sentences.

A rule names the kind of sentence that it recognises, the signs without which it is not tried, and a
reading that finds the fragments of the sentence or declines. Rules are tried in order.
-/
import AbilityText.Clause
import AbilityText.Sentence.Lexicon
import AbilityText.Sentence.Signals

namespace AbilityText

/-- What kind of sentence it is. A plain sentence fits no rule. -/
inductive SentenceKind
  | keyword
  | triggered
  | activated
  | static
  | replacement
  | stateBased
  | plain
deriving DecidableEq, Repr

/-- The name of a kind. -/
def SentenceKind.name : SentenceKind → Text
  | .keyword => "keyword"
  | .triggered => "triggered"
  | .activated => "activated"
  | .static => "static"
  | .replacement => "replacement"
  | .stateBased => "state-based"
  | .plain => "plain"

/-- A category with a text that is still to become a component. -/
abbrev Fragment := Category × Text

/-- A shape of sentences. -/
structure SentenceRule where
  kind : SentenceKind
  signals : List Signal
  reading : Lexicon → Sentence → Option (List Fragment)

namespace SentenceRule

/-! ## Keyword abilities -/

/-- The rule of a keyword that always means the same. -/
def keyword (word : Text) (fragments : List Fragment) : SentenceRule :=
  { kind := .keyword
    signals := [.keyword]
    reading := fun _ s => if Text.hasWhole word s.text then some fragments else none }

/-- First strike, or double strike. -/
def strike : SentenceRule :=
  { kind := .keyword
    signals := [.keyword]
    reading := fun _ s =>
      (Text.findWhole? ["first strike", "double strike"] s.text).map fun phrase =>
        if phrase = ("double strike" : Text) then
          [(.type, "damage"), (.state, "first"), (.state, "second"), (.effect, "deal")]
        else [(.type, "damage"), (.state, "first"), (.effect, "deal")] }

/-- The characters that end the quality after "protection from". -/
def endsQuality (c : Char) : Bool := c = '.' || c = ',' || c = ';'

/-- The quality at the start of what follows "protection from": at least one space, then everything
up to an ending. `none` when there is nothing of that form, and a blank quality when the spaces are
all there is. -/
def quality? (t : Text) : Option Text :=
  let spaces := t.takeWhile Text.isSpace
  let body := (t.dropWhile Text.isSpace).takeWhile fun c => !endsQuality c
  if spaces.isEmpty then none
  else if body.isEmpty && spaces.length < 2 then none
  else some (Text.trim body)

/-- The quality after the first "protection from" that a quality follows. `inWord` says whether a
word character precedes the text. -/
def protectionFrom? (inWord : Bool) : Text → Option Text
  | [] => none
  | c :: rest =>
    let here : Option Text :=
      if inWord then none else (Text.after? "protection from" (c :: rest)).bind quality?
    match here with
    | some quality => some quality
    | none => protectionFrom? (Text.isWordChar c) rest

/-- Protection from a quality. -/
def protection : SentenceRule :=
  { kind := .keyword
    signals := [.keyword]
    reading := fun _ s =>
      ((protectionFrom? false s.text).filter fun quality => !quality.isEmpty).map fun quality =>
        [(.type, quality), (.direction, "can't"), (.effect, "target"), (.type, "damage"),
         (.effect, "prevent")] }

/-! ## Triggered and activated abilities -/

/-- Does the text open with white space and the whole word "then"? -/
def opensWithThen (t : Text) : Bool :=
  ((Clause.afterSpace? t).bind (Text.after? "then")).any Text.atWordEnd

/-- The condition at the start of a text: everything up to a comma, the word "then" or the end. A
line may not end inside it. -/
def conditionOf? : Text → Option Text
  | [] => some []
  | c :: rest =>
    if c = ',' || opensWithThen (c :: rest) then some []
    else if c = '\n' then none
    else (conditionOf? rest).map (c :: ·)

/-- The text after an opening trigger word and white space. -/
def afterTrigger? (t : Text) : Option Text :=
  Sentence.triggerWords.findSome? fun word => (Text.after? word t).bind Clause.afterSpace?

/-- A triggered ability: its condition. -/
def triggered : SentenceRule :=
  { kind := .triggered
    signals := [.openingTrigger]
    reading := fun _ s =>
      ((((afterTrigger? s.text).bind conditionOf?).map Text.trim).filter fun condition =>
        !condition.isEmpty).map fun condition => [(.state, condition)] }

/-- What stands before and after the only colon of a text, when neither is empty. -/
def aroundColon? (t : Text) : Option (Text × Text) :=
  (Text.cutFirst? ':' t).filter fun cut =>
    !cut.1.isEmpty && !cut.2.isEmpty && !cut.2.contains ':'

/-- An activated ability: its cost, and the first effect after the colon. -/
def activated : SentenceRule :=
  { kind := .activated
    signals := [.colon]
    reading := fun lexicon s => do
      let (before, after) ← aroundColon? s.text
      let effect ← ((Text.words after).map (Text.trimOf fun c => !Text.isAlphanumeric c)).find?
        lexicon.isEffect
      let cost := Text.trim before
      if cost.isEmpty then none else some [(.cost, cost), (.effect, effect)] }

/-! ## Other abilities -/

/-- A static ability. -/
def static : SentenceRule :=
  { kind := .static
    signals := []
    reading := fun _ s => if s.shows .staticVerb then some [(.state, "static")] else none }

/-- A replacement effect. -/
def replacement : SentenceRule :=
  { kind := .replacement
    signals := [.insteadWord]
    reading := fun _ s =>
      if Text.hasWhole "instead" s.text then some [(.state, "replacement")] else none }

/-- A state-based action. -/
def stateBased : SentenceRule :=
  { kind := .stateBased
    signals := []
    reading := fun _ s =>
      if s.shows .ifWord && s.shows .thenWord then some [(.state, "state-based")] else none }

/-- Every rule, in the order in which they are tried. -/
def all : List SentenceRule :=
  [keyword "trample"
     [(.type, "damage"), (.state, "leftover"), (.target, "player"), (.effect, "redirect")],
   keyword "lifelink" [(.type, "damage"), (.target, "controller"), (.effect, "heal")],
   keyword "deathtouch" [(.type, "damage"), (.direction, "any"), (.effect, "destroy")],
   strike,
   keyword "flying" [(.state, "blocking"), (.type, "flying"), (.direction, "only")],
   keyword "reach" [(.state, "blocking"), (.type, "flying"), (.direction, "can")],
   keyword "hexproof"
     [(.type, "spell"), (.target, "opponent"), (.direction, "can't"), (.effect, "target")],
   protection, triggered, activated, static, replacement, stateBased]

end SentenceRule

end AbilityText

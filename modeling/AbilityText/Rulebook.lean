/-
AbilityText.Rulebook — several games together: their registry, the lexicon of their words for
sentences of any game, and a generator.
-/
import AbilityText.Generator
import AbilityText.Sentence.Analysis

namespace AbilityText

/-- A registry of games with the lexicon of its parsers, and a generator. -/
structure Rulebook where
  registry : Registry
  lexicon : Lexicon
  generator : Generator

namespace Rulebook

/-- The lexicon of the registered parsers. -/
def lexiconOf (registry : Registry) : Lexicon := .ofParsers registry.parsers.values

/-- The rulebook of a registry, with the standard generator. -/
def ofRegistry (registry : Registry) : Rulebook :=
  { registry, lexicon := lexiconOf registry, generator := .standard }

/-- The rulebook of the built-in games. -/
def builtIn : Rulebook := ofRegistry .builtIn

/-! ## Games -/

/-- The rulebook with a parser for a game. -/
def addGame (game : Text) (parser : GameParser) (book : Rulebook) :
    Except RegistryError Rulebook := do
  let registry ← book.registry.register game parser
  return { book with registry, lexicon := lexiconOf registry }

/-- The rulebook without a game; as it was when the game is not there. -/
def removeGame (game : Text) (book : Rulebook) : Rulebook :=
  if book.registry.isSupported game then
    let registry := book.registry.remove game
    { book with registry, lexicon := lexiconOf registry }
  else book

/-- The chain of an ability text of a game. -/
def parse (book : Rulebook) (game text : Text) : Except RegistryError Chain :=
  (book.registry.get game).map fun parser => parser.parse text

/-- Is the text a valid ability of the game? -/
def isValid (book : Rulebook) (game text : Text) : Except RegistryError Bool :=
  (book.registry.get game).map fun parser => parser.isValid (parser.parse text)

/-- The text of a chain in the words of a game. -/
def generateFor (book : Rulebook) (game : Text) (chain : Chain) : Except RegistryError Text :=
  (book.registry.get game).map fun parser => parser.generate chain

/-! ## Sentences of any game -/

/-- The kind and the chain of a sentence. -/
def analyse (book : Rulebook) (sentence : Text) : SentenceKind × Chain :=
  Sentence.analyse book.lexicon sentence

/-- The chains of the sentences of a text. Sentences that yield nothing are left out. -/
def chainsOf (book : Rulebook) (text : Text) : List Chain :=
  ((Sentence.split text).map fun sentence => (book.analyse sentence).2).filter
    fun chain => !chain.isEmpty

/-- The texts of some chains, as sentences. -/
def generate (book : Rulebook) (chains : List Chain) : Text :=
  List.intercalate ". " ((chains.map book.generator.generate).filter fun t => !t.isEmpty)

/-- How alike two chains are: the share of the categories of either that both have. Two chains
without categories are alike. -/
def similarity (a b : Chain) : Double :=
  let either := (a.categories.union b.categories).size
  if either = 0 then Double.ofRatio 1 1
  else Double.ofRatio (a.categories.inter b.categories).size either

end Rulebook

end AbilityText

/-
AbilityText.Sentence.Analysis — sentences of any game, classified by their shape.

The first rule whose signs the sentence shows and whose reading does not decline gives the chain.
Where no rule does, the words are classified one by one.
-/
import AbilityText.Sentence.Rules

namespace AbilityText

namespace Sentence

/-- The chain of some fragments; blank ones are left out. -/
def chainOf (fragments : List Fragment) : Chain :=
  fragments.foldl (fun chain fragment => (chain.add fragment.1 fragment.2).toOption.getD chain)
    .empty

/-- The fragments that a rule finds, when the sentence shows its signs. -/
def fragmentsBy? (lexicon : Lexicon) (s : Sentence) (rule : SentenceRule) :
    Option (SentenceKind × List Fragment) :=
  if rule.signals.all s.shows then
    (rule.reading lexicon s).map fun fragments => (rule.kind, fragments)
  else none

/-- The fragments of a sentence that fits no rule: the words that the lexicon knows. -/
def plainFragments (lexicon : Lexicon) (s : Sentence) : List Fragment :=
  (Clause.words s.text).filterMap fun word =>
    (lexicon.categoryOf? word).map fun category => (category, word)

/-- The kind and the chain of a sentence. -/
def analyse (lexicon : Lexicon) (text : Text) : SentenceKind × Chain :=
  let lowered := Text.lower (Text.trim text)
  if lowered.isEmpty then (.plain, .empty)
  else
    let s := ofText lowered
    match SentenceRule.all.findSome? (s.fragmentsBy? lexicon) with
    | some (kind, fragments) => (kind, chainOf fragments)
    | none => (.plain, chainOf (plainFragments lexicon s))

/-- The sentences of a text: its stretches between periods and exclamation and question marks. -/
def split (text : Text) : List Text :=
  ((text.splitOnP fun c => c = '.' || c = '!' || c = '?').map Text.trim).filter
    fun sentence => !sentence.isEmpty

end Sentence

end AbilityText

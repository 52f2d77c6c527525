/-
AbilityText.Sentence.Signals — what a quick look at a sentence shows: its words, and the signs by
which most sentence rules can be passed over.
-/
import AbilityText.Text.Letter
import AbilityText.Text.Space

namespace AbilityText

/-- A sign that a rule may ask for before it looks at the sentence itself. -/
inductive Signal
  | colon
  | openingTrigger
  | insteadWord
  | ifWord
  | thenWord
  | staticVerb
  | keyword
deriving DecidableEq, Repr

/-- A sentence in lower case with its words. -/
structure Sentence where
  text : Text
  words : List Text
deriving DecidableEq

namespace Sentence

/-- The words of a sentence: its pieces between white space without the punctuation around them.
Apostrophes stay. -/
def wordsOf (t : Text) : List Text :=
  ((Text.words t).map (Text.trimOf fun c => !Text.isAlphanumeric c && c != '\x27')).filter
    fun word => !word.isEmpty

/-- The sentence of a text in lower case. -/
def ofText (t : Text) : Sentence := ⟨t, wordsOf t⟩

/-- The words that open a triggered ability. -/
def triggerWords : List Text := ["when", "whenever", "at"]

/-- The words by which keyword abilities are recognised. -/
def keywordWords : List Text :=
  ["trample", "lifelink", "deathtouch", "strike", "flying", "reach", "hexproof", "protection"]

/-- Is the word in the sentence? -/
def mentions (s : Sentence) (word : Text) : Bool := s.words.contains word

/-- Does the sentence show the sign? -/
def shows (s : Sentence) : Signal → Bool
  | .colon => s.text.contains ':'
  | .openingTrigger => (Text.words s.text).head?.any triggerWords.contains
  | .insteadWord => s.mentions "instead"
  | .ifWord => s.mentions "if"
  | .thenWord => s.mentions "then"
  | .staticVerb => s.mentions "gets" || s.mentions "have"
  | .keyword => keywordWords.any s.mentions

end Sentence

end AbilityText

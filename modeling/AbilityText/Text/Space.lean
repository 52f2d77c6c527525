/-
AbilityText.Text.Space — white space, trimming, and the words that white space separates.
-/
import AbilityText.Text.Basic
import AbilityText.Text.CodeRanges

namespace AbilityText.Text

/-- The Unicode property White_Space. -/
def whiteSpaceRanges : CodeRanges :=
  [(0x9, 0xD), (0x20, 0x20), (0x85, 0x85), (0xA0, 0xA0), (0x1680, 0x1680), (0x2000, 0x200A),
   (0x2028, 0x2029), (0x202F, 0x202F), (0x205F, 0x205F), (0x3000, 0x3000)]

/-- White space of any kind, line ends included. -/
def isSpace (c : Char) : Bool := whiteSpaceRanges.covers c.toNat

/-- The text without white space at its start. -/
def trimStart (t : Text) : Text := t.dropWhile isSpace

/-- The text without white space at its end. -/
def trimEnd (t : Text) : Text := trimEndOf isSpace t

/-- The text without white space at both ends. -/
def trim (t : Text) : Text := trimOf isSpace t

/-- Nothing but white space. -/
def isBlank (t : Text) : Bool := t.all isSpace

/-- The words of a text: its maximal pieces without white space. -/
def words (t : Text) : List Text :=
  (t.splitOnP isSpace).filter fun piece => !piece.isEmpty

/-- Words with single spaces between them. -/
def unwords (ws : List Text) : Text := [' '].intercalate ws

/-- The text with every run of white space made one space, and none at the ends. -/
def collapse (t : Text) : Text := unwords (words t)

end AbilityText.Text

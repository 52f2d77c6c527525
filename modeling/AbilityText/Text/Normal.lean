/-
AbilityText.Text.Normal — the normal form in which component texts, vocabulary entries and
template keys are compared: lower-case words with single spaces between them.
-/
import AbilityText.Text.Space
import AbilityText.Text.Case

namespace AbilityText.Text

/-- The words of the text in lower case, with single spaces between them. -/
def normalize (t : Text) : Text := unwords ((words t).map lower)

end AbilityText.Text

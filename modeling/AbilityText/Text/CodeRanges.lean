/-
AbilityText.Text.CodeRanges — sets of code points as ascending closed ranges.
-/

namespace AbilityText.Text

/-- Closed ranges of code points, in ascending order and without overlap. -/
abbrev CodeRanges := List (Nat × Nat)

/-- Is the code point in one of the ranges? The search stops at the first range above it. -/
def CodeRanges.covers : CodeRanges → Nat → Bool
  | [], _ => false
  | (first, last) :: later, code =>
    if code < first then false else code ≤ last || covers later code

end AbilityText.Text

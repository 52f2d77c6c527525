/-
AbilityText.Clause — clauses, and the words of a clause.

Texts are expected in lower case. Words keep hyphens, slashes and apostrophes inside, lose the
punctuation around them and a possessive ending, and "card(s)" reads as "cards".
-/
import AbilityText.Text.Space
import AbilityText.Text.Case

namespace AbilityText.Clause

/-! ## Clauses -/

/-- The punctuation that ends a clause. -/
def isBreak (c : Char) : Bool :=
  c = '.' || c = ';' || c = ':' || c = '!' || c = '?' || c = ','

/-- What follows the white space that opens a text, when there is some. -/
def afterSpace? (t : Text) : Option Text :=
  match t with
  | [] => none
  | c :: rest => if Text.isSpace c then some (rest.dropWhile Text.isSpace) else none

/-- The length of the separator that opens a text: a run of breaks, or the word "then" with the
white space around it. It is zero when a clause goes on. -/
def separatorLength (t : Text) : Nat :=
  match t.takeWhile isBreak with
  | [] =>
    match (afterSpace? t).bind (Text.after? "then") |>.bind afterSpace? with
    | some rest => t.length - rest.length
    | none => 0
  | breaks => breaks.length

/-- The stretches of a text between separators, after `skip` characters that are still part of one.
-/
def stretches : (skip : Nat) → Text → List Text
  | _, [] => [[]]
  | skip + 1, _ :: rest => stretches skip rest
  | 0, c :: rest =>
    match separatorLength (c :: rest) with
    | 0 =>
      match stretches 0 rest with
      | [] => [[c]]
      | stretch :: more => (c :: stretch) :: more
    | n + 1 => [] :: stretches n rest

/-- The clauses of a text, without blank ones. -/
def ofText (t : Text) : List Text :=
  ((stretches 0 t).map Text.trim).filter fun clause => !clause.isEmpty

/-! ## Words -/

/-- The text with every "(s)" read as a plural ending. -/
def readPlurals : Text → Text
  | [] => []
  | '(' :: 's' :: ')' :: rest => 's' :: readPlurals rest
  | c :: rest => c :: readPlurals rest

/-- A straight or a typographic apostrophe. -/
def isApostrophe (c : Char) : Bool := c = '\x27' || c = '\u2019'

/-- A word without the punctuation around it and without a possessive ending. -/
def bareWord (raw : Text) : Text :=
  let word := Text.trimOf (fun c => !Text.isAlphanumeric c) raw
  let owner := ((Text.before? "'s" word).or (Text.before? "\u2019s" word)).getD word
  Text.lower (Text.trimEndOf isApostrophe owner)

/-- The words of a clause. -/
def words (clause : Text) : List Text :=
  ((Text.words (readPlurals clause)).map bareWord).filter fun word => !word.isEmpty

/-- The singular forms that a word may have: without "s", without "es", with "y" for "ies". -/
def singulars (word : Text) : List Text :=
  let withoutS := (Text.before? "s" word).filter fun stem =>
    !stem.isEmpty && stem.getLast? != some 's'
  let withoutEs := (Text.before? "es" word).filter fun stem => !stem.isEmpty
  let withY := ((Text.before? "ies" word).filter fun stem => !stem.isEmpty).map (· ++ ['y'])
  withoutS.toList ++ withoutEs.toList ++ withY.toList

end AbilityText.Clause

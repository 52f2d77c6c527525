/-
AbilityText.Text.Letter — letters, numbers and the characters that belong to a word.
-/
import AbilityText.Text.Basic
import AbilityText.Text.LetterTable

namespace AbilityText.Text

/-- The Unicode property Alphabetic. -/
def isAlphabetic (c : Char) : Bool := alphabeticRanges.covers c.toNat

/-- Any Unicode number: a decimal digit, a letter number, a fraction or the like. -/
def isNumeric (c : Char) : Bool :=
  digitRanges.covers c.toNat || otherNumberRanges.covers c.toNat

/-- A letter or a number. -/
def isAlphanumeric (c : Char) : Bool := isAlphabetic c || isNumeric c

/-- The characters between which no word boundary lies: letters, decimal digits, marks, connector
punctuation and join controls of Unicode 16.0. -/
def isWordChar (c : Char) : Bool :=
  !lateLetterRanges.covers c.toNat &&
    (isAlphabetic c || digitRanges.covers c.toNat || joinerRanges.covers c.toNat)

/-- One of the ten ASCII digits. -/
def isAsciiDigit (c : Char) : Bool := '0' ≤ c && c ≤ '9'

/-- The number that a non-empty text of ASCII digits spells in base ten. -/
def natural? (t : Text) : Option Nat :=
  if !t.isEmpty && t.all isAsciiDigit then
    some (t.foldl (fun n c => 10 * n + (c.toNat - '0'.toNat)) 0)
  else none

/-- The number below `size` that a text spells in base ten, with or without a plus in front. -/
def unsigned? (size : Nat) (t : Text) : Option Nat :=
  (natural? ((after? "+" t).getD t)).filter fun n => n < size

/-- The decimal digits of a number. -/
def ofNat (n : Nat) : Text := Nat.toDigits 10 n

/-! ## Whole words -/

/-- Does no word character open the text? -/
def atWordEnd : Text → Bool
  | [] => true
  | c :: _ => !isWordChar c

/-- The rest of the text after the first place where one of the `phrases` stands between word
boundaries, with that phrase; at one place the earlier phrase of the list wins. `inWord` says
whether a word character precedes the text. -/
def findWholeFrom (phrases : List Text) (inWord : Bool) : Text → Option (Text × Text)
  | [] => none
  | c :: rest =>
    let here : Option (Text × Text) :=
      if inWord then none
      else phrases.findSome? fun phrase =>
        match after? phrase (c :: rest) with
        | some tail => if atWordEnd tail then some (phrase, tail) else none
        | none => none
    match here with
    | some found => some found
    | none => findWholeFrom phrases (isWordChar c) rest

/-- The first of the `phrases` to stand in the text as whole words. -/
def findWhole? (phrases : List Text) (t : Text) : Option Text :=
  (findWholeFrom phrases false t).map Prod.fst

/-- Does the phrase stand in the text as whole words? -/
def hasWhole (phrase t : Text) : Bool := (findWhole? [phrase] t).isSome

end AbilityText.Text

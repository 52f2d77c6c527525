/-
AbilityText.Text.Case — lower case, and upper case for the first letter of a sentence.

Case follows the full Unicode mappings: one character may become several, and a capital sigma
becomes a final sigma at the end of a word.
-/
import AbilityText.Text.Letter
import AbilityText.Text.CaseTable

namespace AbilityText.Text

/-- The image of a code point under ascending runs, when one of them holds it. -/
def CaseRun.image? : List CaseRun → Nat → Option Nat
  | [], _ => none
  | run :: later, code =>
    if code < run.first then none
    else if code ≤ run.last && (code - run.first) % run.step = 0 then
      some (run.image + (code - run.first))
    else image? later code

/-- The lower-case form of a character out of context. -/
def lowerChar (c : Char) : Text :=
  if c = '\u0130' then ['i', '\u0307']
  else match CaseRun.image? lowerRuns c.toNat with
    | some code => [Char.ofNat code]
    | none => [c]

/-- The upper-case form of a character. -/
def upperChar (c : Char) : Text :=
  match CaseRun.image? upperRuns c.toNat with
  | some code => [Char.ofNat code]
  | none =>
    match upperExpansions.lookup c.toNat with
    | some codes => codes.map Char.ofNat
    | none => [c]

/-- A letter that has case. -/
def isCased (c : Char) : Bool := casedRanges.covers c.toNat

/-- A character that case context looks through, such as an apostrophe or an accent. -/
def isCaseIgnorable (c : Char) : Bool := caseIgnorableRanges.covers c.toNat

/-- Does a cased letter come first, once ignorable characters are passed over? -/
def opensCased : Text → Bool
  | [] => false
  | c :: rest => if isCaseIgnorable c then opensCased rest else isCased c

/-- Lower case after a text whose last character that is not ignorable is a cased letter or not. A
capital sigma is final when a cased letter stands before it and none follows. -/
def lowerAfter (cased : Bool) : Text → Text
  | [] => []
  | c :: rest =>
    let form : Text :=
      if c = '\u03A3' then
        if cased && !opensCased rest then ['\u03C2'] else ['\u03C3']
      else lowerChar c
    form ++ lowerAfter (if isCaseIgnorable c then cased else isCased c) rest

/-- The text in lower case. -/
def lower (t : Text) : Text := lowerAfter false t

/-- The text with its first letter in upper case. -/
def capitalize : Text → Text
  | [] => []
  | c :: rest => if isAlphabetic c then upperChar c ++ rest else c :: capitalize rest

/-- The text with its ASCII letters in upper case. -/
def asciiUpper (t : Text) : Text := t.map Char.toUpper

end AbilityText.Text

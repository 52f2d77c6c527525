/-
AbilityText.Text.Basic — texts as lists of characters: cutting them at a mark, and taking a
known opening or ending off.
-/

namespace AbilityText

/-- A text is the list of its characters (Unicode scalar values). -/
abbrev Text := List Char

/-- A string literal is read as the text it spells. -/
instance : Coe String Text := ⟨String.toList⟩

namespace Text

/-! ## Cuts -/

/-- What stands before and after the first occurrence of `mark`. -/
def cutFirst? (mark : Char) : Text → Option (Text × Text)
  | [] => none
  | c :: rest =>
    if c = mark then some ([], rest)
    else (cutFirst? mark rest).map fun cut => (c :: cut.1, cut.2)

/-- What stands before and after the last occurrence of `mark`. -/
def cutLast? (mark : Char) : Text → Option (Text × Text)
  | [] => none
  | c :: rest =>
    match cutLast? mark rest with
    | some cut => some (c :: cut.1, cut.2)
    | none => if c = mark then some ([], rest) else none

/-! ## Ends -/

/-- What follows `opening`, when the text opens with it. -/
def after? : (opening : Text) → Text → Option Text
  | [], t => some t
  | _ :: _, [] => none
  | o :: opening, c :: rest => if o = c then after? opening rest else none

/-- What precedes `ending`, when the text ends with it. -/
def before? (ending t : Text) : Option Text :=
  (after? ending.reverse t.reverse).map List.reverse

/-- Does the text end with `ending`? -/
def endsWith (ending t : Text) : Bool := (before? ending t).isSome

/-- Does `part` stand somewhere in the text? -/
def holds (part : Text) : Text → Bool
  | [] => part.isEmpty
  | c :: rest => part.isPrefixOf (c :: rest) || holds part rest

/-- The text without the characters of `drops` at its end. -/
def trimEndOf (drops : Char → Bool) (t : Text) : Text :=
  (t.reverse.dropWhile drops).reverse

/-- The text without the characters of `drops` at both ends. -/
def trimOf (drops : Char → Bool) (t : Text) : Text :=
  trimEndOf drops (t.dropWhile drops)

end Text

end AbilityText

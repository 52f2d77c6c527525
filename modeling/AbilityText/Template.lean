/-
AbilityText.Template — templates of ability text.

A template holds placeholders, written as a name in braces, and optional sections, written in square
brackets. A section with placeholders is kept when at least one of them has a value. The result has
single spaces and no space before a comma, a period, a colon or a semicolon.
-/
import AbilityText.Category
import AbilityText.Text.Normal

namespace AbilityText.Template

/-! ## Writing a template -/

/-- The placeholder with this name. -/
def slotNamed (name : Text) : Text := '\x7b' :: name ++ ['\x7d']

/-- The placeholder of a category. -/
def slot (category : Category) : Text := slotNamed category.toTag

/-- The name of the placeholder that stands for a plural ending. -/
def pluralName : Text := "PLURAL"

/-- The placeholder that stands for a plural ending. -/
def plural : Text := slotNamed pluralName

/-- The plural ending after a value: none after one. -/
def pluralEnding (value : Option Text) : Text := if value = some ['1'] then [] else ['s']

/-! ## Reading a template -/

/-- A stretch of a template outside the sections, or the inside of a section. -/
inductive Piece
  | plain (text : Text)
  | optional (inner : Text)
deriving DecidableEq, Repr

/-- The pieces of a template. `opened` is what has been read since a bracket was opened. A section
holds no bracket, so a second opening bracket makes the first one plain. -/
def pieces : (opened : Option Text) → Text → List Piece
  | none, [] => []
  | some inner, [] => [.plain ('[' :: inner)]
  | none, c :: rest =>
    if c = '[' then pieces (some []) rest else .plain [c] :: pieces none rest
  | some inner, c :: rest =>
    if c = '[' then .plain ('[' :: inner) :: pieces (some []) rest
    else if c = ']' then .optional inner :: pieces none rest
    else pieces (some (inner ++ [c])) rest

/-- A character that stands for itself, or a placeholder. -/
inductive Token
  | literal (text : Text)
  | placeholder (name : Text)
deriving DecidableEq, Repr

/-- The characters of a placeholder's name: ASCII letters and the underscore. -/
def isNameChar (c : Char) : Bool := c.isAlpha || c = '_'

/-- The tokens of a text. `opened` is the name read since a brace was opened. A brace that does not
enclose a name is literal. -/
def tokens : (opened : Option Text) → Text → List Token
  | none, [] => []
  | some name, [] => [.literal ('\x7b' :: name)]
  | none, c :: rest =>
    if c = '\x7b' then tokens (some []) rest else .literal [c] :: tokens none rest
  | some name, c :: rest =>
    if c = '\x7b' then .literal ('\x7b' :: name) :: tokens (some []) rest
    else if c = '\x7d' && !name.isEmpty then .placeholder name :: tokens none rest
    else if isNameChar c then tokens (some (name ++ [c])) rest
    else .literal ('\x7b' :: name ++ [c]) :: tokens none rest

/-! ## Filling it in -/

/-- The value of a placeholder. Names are looked up in capitals, and a blank value is none. -/
def value? (lookup : Text → Option Text) (name : Text) : Option Text :=
  (lookup (Text.asciiUpper name)).filter fun value => !Text.isBlank value

/-- The text of a token; a placeholder without value leaves nothing. -/
def Token.fill (lookup : Text → Option Text) : Token → Text
  | .literal text => text
  | .placeholder name => (value? lookup name).getD []

/-- The text with its placeholders replaced. -/
def substitute (lookup : Text → Option Text) (t : Text) : Text :=
  (tokens none t).flatMap (Token.fill lookup)

/-- The names of the placeholders in a text. -/
def placeholders (t : Text) : List Text :=
  (tokens none t).filterMap fun
    | .literal _ => none
    | .placeholder name => some name

/-- What is left of a piece: a section whose placeholders have no value is dropped, one with a value
is filled in, and one without placeholders loses its brackets only. -/
def Piece.resolve (lookup : Text → Option Text) : Piece → Text
  | .plain text => text
  | .optional inner =>
    let names := placeholders inner
    if names.isEmpty then inner
    else if names.any fun name => (value? lookup name).isSome then substitute lookup inner
    else []

/-! ## Tidying up -/

/-- The punctuation that no space precedes. -/
def closesUp (c : Char) : Bool := c = ',' || c = '.' || c = ':' || c = ';'

/-- The text without the spaces that stand right before closing punctuation. -/
def closeUp : Text → Text
  | [] => []
  | [c] => [c]
  | c :: d :: rest =>
    if c = ' ' && closesUp d then d :: closeUp rest else c :: closeUp (d :: rest)

/-- Single spaces, none before closing punctuation, and neither spaces nor commas at the ends. -/
def tidy (t : Text) : Text :=
  Text.trimOf (fun c => c = ',' || Text.isSpace c) (closeUp (Text.collapse t))

/-- The template filled in: first its sections, then the placeholders of what they left, then
tidied. -/
def render (template : Text) (lookup : Text → Option Text) : Text :=
  tidy (substitute lookup ((pieces none template).flatMap (Piece.resolve lookup)))

end AbilityText.Template

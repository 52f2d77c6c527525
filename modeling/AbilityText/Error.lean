/-
AbilityText.Error — what can go wrong when a component, a record or a registry entry is asked for,
with the message that each failure shows.

Parsing and validating never fail: a text that says nothing is an empty chain, and an invalid chain
is a negative verdict.
-/
import AbilityText.Category
import AbilityText.Text.Utf8

namespace AbilityText

/-- Why a component cannot be built. -/
inductive ComponentError
  /-- The tag names no category. -/
  | unknownCategory (tag : Text)
  /-- The text has no word. -/
  | emptyText (category : Category)
deriving DecidableEq, Repr

/-- The message of a component error. -/
def ComponentError.message : ComponentError → Text
  | .unknownCategory tag => "unknown component category '" ++ tag ++ "'"
  | .emptyText category => "invalid component: empty text for " ++ category.toTag

/-- Why a record cannot be stored, or a stored record cannot be read. -/
inductive RecordError
  /-- The library for comma-separated values refuses, with this message. -/
  | refused (message : Text)
  /-- A row was written that is no text. -/
  | notUtf8 (fault : Utf8.Fault)
  /-- An item of a chain has no colon. -/
  | missingCategory (item : Text)
  /-- An item of a chain is no component. -/
  | badComponent (item : Text) (cause : ComponentError)
  /-- A row holds no record. -/
  | emptyRow
  /-- A row has one column only. -/
  | missingColumn (row : Text)
deriving DecidableEq, Repr

/-- The message of a record error. -/
def RecordError.message (e : RecordError) : Text :=
  let detail : Text :=
    match e with
    | .refused message => message
    | .notUtf8 fault => fault.message
    | .missingCategory item => "missing category in '" ++ item ++ "'"
    | .badComponent item cause => "'" ++ item ++ "': " ++ cause.message
    | .emptyRow => "empty row"
    | .missingColumn row => "expected two columns: '" ++ row ++ "'"
  "malformed record: " ++ detail

/-- Why a registry refuses a request. -/
inductive RegistryError
  /-- No parser stands under the key of this game. -/
  | unsupportedGame (game : Text)
  /-- A parser cannot be registered without a key. -/
  | blankKey
deriving DecidableEq, Repr

/-- The message of a registry error. -/
def RegistryError.message : RegistryError → Text
  | .unsupportedGame game => "unsupported game: " ++ game
  | .blankKey => "invalid argument: game key must not be blank"

end AbilityText

/-
AbilityText.Record.ChainField — chains as text.

A component is its text, a colon and its tag; commas separate the components of a chain, and bars
separate chains. Texts are split at their last colon, so they may hold one; commas and bars in a
text become spaces.
-/
import AbilityText.Chain

namespace AbilityText.ChainField

/-! ## Writing -/

/-- Does the character separate components or chains? -/
def isSeparator (c : Char) : Bool := c = ',' || c = '|'

/-- The text with spaces for separators, and single spaces. -/
def withoutSeparators (t : Text) : Text :=
  Text.collapse (t.map fun c => if isSeparator c then ' ' else c)

/-- A component as an item of a chain. -/
def encodeComponent (c : Component) : Text := withoutSeparators c.text ++ ':' :: c.category.toTag

/-- A chain as a field. -/
def encodeChain (chain : Chain) : Text :=
  [','].intercalate (chain.components.map encodeComponent)

/-- Several chains as a field. -/
def encodeChains (chains : List Chain) : Text := ['|'].intercalate (chains.map encodeChain)

/-! ## Reading -/

/-- The items of a chain field. Blank ones are left out. -/
def items (field : Text) : List Text :=
  ((field.splitOnP (· = ',')).map Text.trim).filter fun item => !item.isEmpty

/-- The component of an item. -/
def decodeComponent (item : Text) : Except RecordError Component :=
  match Text.cutLast? ':' item with
  | none => .error (.missingCategory item)
  | some (value, tag) =>
    match Component.parse tag value with
    | .error cause => .error (.badComponent item cause)
    | .ok component => .ok component

/-- The chain of a field. A blank field is the empty chain; the first bad item is the error. -/
def decodeChain (field : Text) : Except RecordError Chain :=
  ((items field).mapM decodeComponent).map Chain.ofList

/-- The segments of a field that holds several chains. Blank ones are left out. -/
def segments (field : Text) : List Text :=
  (field.splitOnP (· = '|')).filter fun segment => !Text.isBlank segment

/-- The chains of a field. -/
def decodeChains (field : Text) : Except RecordError (List Chain) :=
  (segments field).mapM decodeChain

end AbilityText.ChainField

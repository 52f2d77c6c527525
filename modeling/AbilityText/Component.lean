/-
AbilityText.Component — one classified fragment of ability text.
-/
import AbilityText.Error
import AbilityText.Text.Normal

namespace AbilityText

/-- A category with a text in normal form that has at least one word. -/
structure Component where
  category : Category
  text : Text
  isNormal : ∃ source, Text.normalize source = text
  isNonempty : text ≠ []

namespace Component

theorem ext_of {a b : Component} (hc : a.category = b.category) (ht : a.text = b.text) : a = b := by
  cases a; cases b; cases hc; cases ht; rfl

instance : DecidableEq Component := fun a b =>
  if h : a.category = b.category ∧ a.text = b.text then isTrue (ext_of h.1 h.2)
  else isFalse fun e => h ⟨congrArg _ e, congrArg _ e⟩

/-- The component of a category with a text, which is brought into normal form. -/
def new (category : Category) (text : Text) : Except ComponentError Component :=
  if h : Text.normalize text = [] then .error (.emptyText category)
  else .ok ⟨category, Text.normalize text, ⟨text, rfl⟩, h⟩

/-- The component with a category given by its tag. A bad tag is reported before a blank text. -/
def parse (tag text : Text) : Except ComponentError Component :=
  match Category.ofTag? tag with
  | none => .error (.unknownCategory (Text.trim tag))
  | some category => new category text

/-- A component as one item of a chain: its text, a colon and its tag. -/
def display (c : Component) : Text := c.text ++ ":" ++ c.category.toTag

/-- Components are ordered by category, then by text in code point order. -/
protected def compare (a b : Component) : Ordering :=
  (compare a.category.index b.category.index).then (compare a.text b.text)

end Component

end AbilityText

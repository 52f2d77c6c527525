/-
AbilityText.Chain — the components that describe one ability, with the two scalars that a chain may
carry beside them.

A chain stands for a set of components. It keeps the order of insertion so that rendering is
determined, and the set of its categories so that shape checks need no search.
-/
import AbilityText.CategorySet
import AbilityText.Component
import AbilityText.Double

namespace AbilityText

/-- The components of one ability clause in insertion order. `present` holds the categories of the
components; `qualifier` and `numbers` travel along and take no part in comparisons. -/
structure Chain where
  components : List Component
  present : CategorySet
  qualifier : Option Text
  numbers : List Double
deriving DecidableEq

namespace Chain

/-- The chain without components. -/
def empty : Chain := ⟨[], .empty, none, []⟩

instance : Inhabited Chain := ⟨empty⟩

/-! ## Building -/

/-- Is the component in the chain? -/
def holds (chain : Chain) (c : Component) : Bool := chain.components.contains c

/-- The chain with a component at its end, or as it was when it holds the component already. -/
def insert (c : Component) (chain : Chain) : Chain :=
  if chain.holds c then chain
  else { chain with
    components := chain.components ++ [c]
    present := chain.present.insert c.category }

/-- The chain with the component of a category and a text. -/
def add (category : Category) (text : Text) (chain : Chain) : Except ComponentError Chain :=
  (Component.new category text).map fun c => chain.insert c

/-- The chain of the listed components. -/
def ofList (cs : List Component) : Chain := cs.foldl (fun chain c => chain.insert c) empty

/-- The chain with another qualifier, or with none. -/
def setQualifier (qualifier : Option Text) (chain : Chain) : Chain :=
  { chain with qualifier := qualifier }

/-- Is a number of this value in the chain? -/
def holdsNumber (chain : Chain) (x : Double) : Bool := chain.numbers.any fun y => y.same x

/-- The chain with a number at its end, or as it was when it holds an equal number already. -/
def addNumber (x : Double) (chain : Chain) : Chain :=
  if chain.holdsNumber x then chain else { chain with numbers := chain.numbers ++ [x] }

/-- The union of two chains: the components and numbers of the first, then those of the second that
are new. The qualifier of the first wins. -/
def merge (chain other : Chain) : Chain :=
  let united := other.components.foldl (fun acc c => acc.insert c) chain
  let qualified := { united with qualifier := chain.qualifier.or other.qualifier }
  other.numbers.foldl (fun acc x => acc.addNumber x) qualified

/-! ## What an insertion does -/

theorem holds_iff {chain : Chain} {c : Component} :
    chain.holds c = true ↔ c ∈ chain.components := by simp [holds]

/-- An insertion adds the component and takes none away. -/
theorem mem_components_insert {chain : Chain} {c d : Component} :
    d ∈ (chain.insert c).components ↔ d ∈ chain.components ∨ d = c := by
  unfold insert
  split
  · next held =>
    rw [holds_iff] at held
    exact ⟨.inl, fun h => h.elim id fun e => e ▸ held⟩
  · simp

/-- An insertion makes no repeats. -/
theorem nodup_components_insert {chain : Chain} (c : Component)
    (h : chain.components.Nodup) : (chain.insert c).components.Nodup := by
  unfold insert
  split
  · exact h
  · next fresh =>
    rw [holds_iff] at fresh
    simpa [List.nodup_append, h] using fun a ha (e : a = c) => fresh (e ▸ ha)

/-! ## Asking -/

/-- The categories of the components. -/
def categories (chain : Chain) : CategorySet := chain.present

/-- Does a component have this category? -/
def hasCategory (chain : Chain) (category : Category) : Bool := chain.present.has category

/-- Does a component have this category and this text, up to normal form? -/
def hasComponent (chain : Chain) (category : Category) (value : Text) : Bool :=
  chain.hasCategory category &&
    chain.components.any fun c =>
      decide (c.category = category) && decide (c.text = Text.normalize value)

/-- Does a component of any category have this text, up to normal form? -/
def hasValue (chain : Chain) (value : Text) : Bool :=
  chain.components.any fun c => decide (c.text = Text.normalize value)

/-- The components of a category, in insertion order. -/
def componentsOf (chain : Chain) (category : Category) : List Component :=
  chain.components.filter fun c => decide (c.category = category)

/-- The first component of a category. -/
def firstOf? (chain : Chain) (category : Category) : Option Component :=
  (chain.componentsOf category).head?

/-- The text of the first component of a category. -/
def textOf? (chain : Chain) (category : Category) : Option Text :=
  (chain.firstOf? category).map Component.text

/-- The text of the component at `index` among those of a category, or else of the first. -/
def nthTextOf? (chain : Chain) (category : Category) (index : Nat) : Option Text :=
  (((chain.componentsOf category)[index]?).or (chain.firstOf? category)).map Component.text

/-- The number of components. -/
def size (chain : Chain) : Nat := chain.components.length

/-- No component at all. -/
def isEmpty (chain : Chain) : Bool := chain.components.isEmpty

/-- The generic shape: a base and a type are present. Games judge by rules of their own. -/
def hasBaseAndType (chain : Chain) : Bool :=
  chain.present.includes (.ofList [.base, .type])

/-- The same set of components, whatever the order and the scalars. -/
def same (chain other : Chain) : Bool :=
  chain.size == other.size && chain.components.all other.holds

/-- The components in their own order, which is the same for chains of the same set. -/
def sorted (chain : Chain) : List Component :=
  chain.components.mergeSort fun a b => (a.compare b).isLE

/-- The components separated by commas. -/
def display (chain : Chain) : Text := [','].intercalate (chain.components.map Component.display)

/-- The component texts, category by category in the given order, separated by spaces. -/
def renderBy (chain : Chain) (order : List Category) : Text :=
  Text.unwords ((order.flatMap chain.componentsOf).map Component.text)

end Chain

end AbilityText

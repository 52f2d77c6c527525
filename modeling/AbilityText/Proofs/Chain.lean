/-
AbilityText.Proofs.Chain — the chains that operations build, and what holds of all of them.

`Built` are the chains that come from the empty one by insertions, unions and changes of the two
scalars. Each of them is `Consistent`: no component and no number is there twice, and the stored
set of categories is that of the components. A consistent chain is what its components make, apart
from the scalars (`ofList_components`), comparing consistent chains compares their sets of
components (`same_iff`), and what such a chain answers about categories and texts is true of its
components (`Consistent.hasCategory_iff`, `Consistent.hasComponent_iff`).
-/
import Mathlib.Data.List.Perm.Subperm
import AbilityText.Chain
import AbilityText.Proofs.Repeats
import AbilityText.Proofs.Text.Normal

namespace AbilityText

/-! ## §1 Components -/

namespace Component

theorem isNormal_text (c : Component) : Text.IsNormal c.text := by
  obtain ⟨source, same⟩ := c.isNormal
  rw [← same]
  exact Text.isNormal_normalize source

/-- A text with a word in it makes a component. -/
theorem new_of_not_blank (category : Category) {text : Text} (h : Text.isBlank text = false) :
    ∃ c : Component, new category text = .ok c ∧ c.category = category ∧
      c.text = Text.normalize text := by
  have solid : Text.normalize text ≠ [] := by
    intro blank
    rw [Text.normalize_eq_nil_iff, h] at blank
    simp at blank
  exact ⟨⟨category, Text.normalize text, ⟨text, rfl⟩, solid⟩, by rw [new, dif_neg solid], rfl, rfl⟩

/-- A blank text makes none. -/
theorem new_of_blank (category : Category) {text : Text} (h : Text.isBlank text = true) :
    new category text = .error (.emptyText category) := by
  rw [new, dif_pos (Text.normalize_eq_nil_iff.2 h)]

theorem new_eq_ok {category : Category} {text : Text} {c : Component}
    (h : new category text = .ok c) : c.category = category ∧ c.text = Text.normalize text := by
  unfold new at h
  split at h
  · simp at h
  · cases h
    exact ⟨rfl, rfl⟩

/-- A component depends on the normal form of its text alone. -/
theorem new_congr (category : Category) {a b : Text} (h : Text.normalize a = Text.normalize b) :
    new category a = new category b := by
  unfold new
  simp only [h]

/-- The category and the text of a component make it again. -/
theorem new_text (c : Component) : new c.category c.text = .ok c := by
  have same : Text.normalize c.text = c.text := c.isNormal_text
  rw [new, dif_neg (by rw [same]; exact c.isNonempty)]
  exact congrArg Except.ok (ext_of rfl same)

end Component

namespace Chain

/-! ## §2 Chains of listed components -/

theorem components_insert (chain : Chain) (c : Component) :
    (chain.insert c).components = keepFirst chain.components c := by
  unfold insert keepFirst holds
  split <;> rfl

theorem components_foldl_insert (cs : List Component) (chain : Chain) :
    (cs.foldl (fun chain c => chain.insert c) chain).components =
      cs.foldl keepFirst chain.components := by
  induction cs generalizing chain with
  | nil => rfl
  | cons c cs ih => rw [List.foldl_cons, ih, components_insert, List.foldl_cons]

/-- The chain of a list has the first occurrences in the list. -/
theorem components_ofList (cs : List Component) : (ofList cs).components = cs.eraseDups := by
  rw [ofList, components_foldl_insert, foldl_keepFirst]
  simp [empty]

theorem qualifier_foldl_insert (cs : List Component) (chain : Chain) :
    (cs.foldl (fun chain c => chain.insert c) chain).qualifier = chain.qualifier := by
  induction cs generalizing chain with
  | nil => rfl
  | cons c cs ih =>
    rw [List.foldl_cons, ih]
    unfold insert
    split <;> rfl

theorem numbers_foldl_insert (cs : List Component) (chain : Chain) :
    (cs.foldl (fun chain c => chain.insert c) chain).numbers = chain.numbers := by
  induction cs generalizing chain with
  | nil => rfl
  | cons c cs ih =>
    rw [List.foldl_cons, ih]
    unfold insert
    split <;> rfl

/-! ## §3 Built chains -/

/-- The chains that operations make. -/
inductive Built : Chain → Prop
  | empty : Built .empty
  | insert {chain : Chain} (c : Component) : Built chain → Built (chain.insert c)
  | merge {chain other : Chain} : Built chain → Built other → Built (chain.merge other)
  | setQualifier {chain : Chain} (qualifier : Option Text) :
      Built chain → Built (chain.setQualifier qualifier)
  | addNumber {chain : Chain} (x : Double) : Built chain → Built (chain.addNumber x)

theorem Built.foldl_insert (cs : List Component) {chain : Chain} (h : Built chain) :
    Built (cs.foldl (fun chain c => chain.insert c) chain) := by
  induction cs generalizing chain with
  | nil => exact h
  | cons c cs ih => exact ih (h.insert c)

theorem built_ofList (cs : List Component) : Built (ofList cs) := Built.empty.foldl_insert cs

/-- What holds of a chain along every sequence of operations. -/
structure Consistent (chain : Chain) : Prop where
  /-- No component is there twice. -/
  nodup : chain.components.Nodup
  /-- The stored set is that of the categories of the components. -/
  has_present : ∀ category, chain.present.has category =
    (chain.components.map Component.category).contains category
  /-- No two numbers are equal. -/
  numbers_differ : chain.numbers.Pairwise fun x y => x.same y = false

namespace Consistent

variable {chain : Chain}

theorem empty : Consistent .empty := by
  constructor <;> simp [Chain.empty]

theorem insert (h : Consistent chain) (c : Component) : Consistent (chain.insert c) := by
  refine ⟨nodup_components_insert c h.nodup, fun category => ?_, ?_⟩
  · unfold Chain.insert
    split
    · exact h.has_present category
    · rw [CategorySet.has_insert, h.has_present, Bool.eq_iff_iff]
      simp only [Bool.or_eq_true, List.contains_iff_mem, decide_eq_true_eq, List.map_append,
        List.map_cons, List.map_nil, List.mem_append, List.mem_singleton]
      exact or_congr_right eq_comm
  · unfold Chain.insert
    split <;> exact h.numbers_differ

theorem foldl_insert (cs : List Component) (h : Consistent chain) :
    Consistent (cs.foldl (fun chain c => chain.insert c) chain) := by
  induction cs generalizing chain with
  | nil => exact h
  | cons c cs ih => exact ih (h.insert c)

theorem setQualifier (h : Consistent chain) (qualifier : Option Text) :
    Consistent (chain.setQualifier qualifier) := ⟨h.nodup, h.has_present, h.numbers_differ⟩

theorem addNumber (h : Consistent chain) (x : Double) : Consistent (chain.addNumber x) := by
  unfold Chain.addNumber
  split
  · exact h
  · next new =>
    refine ⟨h.nodup, h.has_present, List.pairwise_append.2 ⟨h.numbers_differ, by simp, ?_⟩⟩
    intro y hy z hz
    rw [List.mem_singleton.1 hz]
    simp only [holdsNumber, List.any_eq_true, not_exists, not_and, Bool.not_eq_true] at new
    exact new y hy

theorem foldl_addNumber (xs : List Double) (h : Consistent chain) :
    Consistent (xs.foldl (fun chain x => chain.addNumber x) chain) := by
  induction xs generalizing chain with
  | nil => exact h
  | cons x xs ih => exact ih (h.addNumber x)

theorem merge (h : Consistent chain) (other : Chain) : Consistent (chain.merge other) :=
  ((h.foldl_insert other.components).setQualifier _).foldl_addNumber other.numbers

end Consistent

/-- **Every built chain is consistent.** -/
theorem Built.consistent {chain : Chain} (h : Built chain) : Consistent chain := by
  induction h with
  | empty => exact .empty
  | insert c _ ih => exact ih.insert c
  | merge _ _ ih _ => exact ih.merge _
  | setQualifier qualifier _ ih => exact ih.setQualifier qualifier
  | addNumber x _ ih => exact ih.addNumber x

/-- The chain without its scalars. -/
def withoutScalars (chain : Chain) : Chain := { chain with qualifier := none, numbers := [] }

/-- Consistent chains without scalars that have the same components are the same. -/
theorem eq_of_components {chain other : Chain} (h : Consistent chain) (h' : Consistent other)
    (components : chain.components = other.components)
    (qualifier : chain.qualifier = other.qualifier) (numbers : chain.numbers = other.numbers) :
    chain = other := by
  have present : chain.present = other.present := CategorySet.ext_has fun category => by
    rw [h.has_present, h'.has_present, components]
  cases chain
  cases other
  simp_all

/-- The components of a consistent chain make it again, apart from its scalars. -/
theorem ofList_components {chain : Chain} (h : Consistent chain) :
    ofList chain.components = chain.withoutScalars := by
  refine eq_of_components (built_ofList chain.components).consistent
    ⟨h.nodup, h.has_present, List.Pairwise.nil⟩ ?_ ?_ ?_
  · rw [components_ofList, eraseDups_of_nodup h.nodup]
    rfl
  · exact qualifier_foldl_insert _ _
  · exact numbers_foldl_insert _ _

/-- A chain of listed components carries no scalars. -/
theorem withoutScalars_ofList (cs : List Component) : (ofList cs).withoutScalars = ofList cs := by
  have qualifier : (ofList cs).qualifier = none := qualifier_foldl_insert cs .empty
  have numbers : (ofList cs).numbers = [] := numbers_foldl_insert cs .empty
  rw [withoutScalars, ← qualifier, ← numbers]

/-- Adding numbers changes the numbers only. -/
theorem foldl_addNumber (xs : List Double) (chain : Chain) :
    xs.foldl (fun chain x => chain.addNumber x) chain =
      { chain with numbers := xs.foldl (keepNew Double.same) chain.numbers } := by
  induction xs generalizing chain with
  | nil => rfl
  | cons x xs ih =>
    have step : chain.addNumber x =
        { chain with numbers := keepNew Double.same chain.numbers x } := by
      unfold addNumber keepNew holdsNumber
      split <;> rfl
    rw [List.foldl_cons, ih, step, List.foldl_cons]

/-- A union inserts the components, and adds the numbers to those of the first chain. -/
theorem merge_eq (chain other : Chain) : chain.merge other =
    { other.components.foldl (fun chain c => chain.insert c) chain with
      qualifier := chain.qualifier.or other.qualifier
      numbers := other.numbers.foldl (keepNew Double.same) chain.numbers } := by
  rw [merge, foldl_addNumber, numbers_foldl_insert]

theorem components_merge (chain other : Chain) :
    (chain.merge other).components = other.components.foldl keepFirst chain.components := by
  rw [merge_eq]
  exact components_foldl_insert _ _

theorem qualifier_merge (chain other : Chain) :
    (chain.merge other).qualifier = chain.qualifier.or other.qualifier := by
  rw [merge_eq]

theorem numbers_merge (chain other : Chain) :
    (chain.merge other).numbers = other.numbers.foldl (keepNew Double.same) chain.numbers := by
  rw [merge_eq]

/-- Listing one more component in front is uniting its chain with that of the others. -/
theorem ofList_cons (c : Component) (cs : List Component) :
    ofList (c :: cs) = (ofList [c]).merge (ofList cs) := by
  have listed : ∀ cs : List Component, (ofList cs).components = cs.foldl keepFirst [] :=
    fun cs => components_foldl_insert cs .empty
  have qualifier : ∀ cs : List Component, (ofList cs).qualifier = none :=
    fun cs => qualifier_foldl_insert cs .empty
  have numbers : ∀ cs : List Component, (ofList cs).numbers = [] :=
    fun cs => numbers_foldl_insert cs .empty
  refine eq_of_components (built_ofList _).consistent
    ((built_ofList [c]).merge (built_ofList cs)).consistent ?_ ?_ ?_
  · rw [components_merge, listed, listed, listed, foldl_keepFirst_foldl]
    rfl
  · rw [qualifier_merge, qualifier, qualifier, qualifier, Option.or_none]
  · rw [numbers_merge, numbers, numbers, numbers, List.foldl_nil]

/-! ## §4 Comparing chains -/

/-- Consistent chains compare equal when they hold the same components. -/
theorem same_iff {chain other : Chain} (h : Consistent chain) (h' : Consistent other) :
    chain.same other = true ↔ ∀ c, c ∈ chain.components ↔ c ∈ other.components := by
  have subset : chain.components.all other.holds = true ↔
      chain.components ⊆ other.components := by
    simp only [List.all_eq_true, holds_iff]
    exact Iff.rfl
  rw [same, Bool.and_eq_true, beq_iff_eq, subset, size, size]
  constructor
  · rintro ⟨size, subset⟩ c
    have perm : chain.components.Perm other.components :=
      (List.subperm_of_subset h.nodup subset).perm_of_length_le (Nat.le_of_eq size.symm)
    exact perm.mem_iff
  · intro components
    have perm : chain.components.Perm other.components :=
      (List.perm_ext_iff_of_nodup h.nodup h'.nodup).2 components
    exact ⟨perm.length_eq, perm.subset⟩

/-! ## §5 Asking -/

section
variable {chain : Chain} {category : Category}

theorem mem_componentsOf {c : Component} :
    c ∈ chain.componentsOf category ↔ c ∈ chain.components ∧ c.category = category := by
  simp [componentsOf]

theorem componentsOf_ne_nil_iff :
    chain.componentsOf category ≠ [] ↔ ∃ c ∈ chain.components, c.category = category := by
  rw [componentsOf, ne_eq, List.filter_eq_nil_iff]
  simp

/-- The stored set answers for the components. -/
theorem Consistent.hasCategory_iff (h : Consistent chain) :
    chain.hasCategory category = true ↔ ∃ c ∈ chain.components, c.category = category := by
  rw [hasCategory, h.has_present, List.contains_iff_mem, List.mem_map]

/-- Asking for several categories at once. -/
theorem includes_ofList (chain : Chain) (categories : List Category) :
    chain.categories.includes (.ofList categories) = categories.all chain.hasCategory := by
  rw [Bool.eq_iff_iff, CategorySet.includes_iff, List.all_eq_true]
  exact forall_congr' fun category => by
    rw [CategorySet.has_ofList_iff]
    rfl

/-- A component is found by its category and any spelling of its text. -/
theorem Consistent.hasComponent_iff (h : Consistent chain) {value : Text} :
    chain.hasComponent category value = true ↔
      ∃ c ∈ chain.components, c.category = category ∧ c.text = Text.normalize value := by
  rw [hasComponent, Bool.and_eq_true, h.hasCategory_iff, List.any_eq_true]
  simp only [Bool.and_eq_true, decide_eq_true_eq]
  constructor
  · rintro ⟨-, c, member, same⟩
    exact ⟨c, member, same⟩
  · rintro ⟨c, member, same⟩
    exact ⟨⟨c, member, same.1⟩, c, member, same⟩

theorem Consistent.hasComponent_of_mem (h : Consistent chain) {c : Component}
    (member : c ∈ chain.components) : chain.hasComponent c.category c.text = true :=
  h.hasComponent_iff.2 ⟨c, member, rfl, c.isNormal_text.symm⟩

/-- Asking for a component is making it and looking for it. -/
theorem Consistent.hasComponent_iff_new (h : Consistent chain) {value : Text} :
    chain.hasComponent category value = true ↔
      ∃ c, Component.new category value = .ok c ∧ c ∈ chain.components := by
  rw [h.hasComponent_iff]
  constructor
  · rintro ⟨c, member, rfl, text⟩
    have solid : Text.normalize value ≠ [] := text ▸ c.isNonempty
    refine ⟨c, ?_, member⟩
    rw [Component.new, dif_neg solid]
    exact congrArg Except.ok (Component.ext_of rfl text.symm)
  · rintro ⟨c, made, member⟩
    exact ⟨c, member, Component.new_eq_ok made⟩

end

end Chain

end AbilityText

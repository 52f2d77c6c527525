/-
AbilityText.Proofs.Chain.Merge — uniting chains.

The three parts of a chain are united in three ways. Components are added when no equal one is
there, numbers when no number of the same value is there, and the qualifier is that of the first
chain that has one. What makes all three associative is that likeness is transitive: the numeric
comparison is (`Double.same_trans`), although no NaN is like itself (`Double.same_self_iff`) and
the two zeros are alike.

Associativity is on chains as they are stored, order and scalars included
(`Consistent.merge_assoc`). Commutativity is up to the comparison of chains only. A NaN is added
again by every union, and that is the one obstacle to a union with itself being idle
(`Consistent.merge_self_iff`).
-/
import AbilityText.Proofs.Chain.Reached

namespace AbilityText

/-! ## §1 Numbers of the same value -/

namespace Double

theorem same_iff {x y : Double} : x.same y = true ↔
    x.isNaN = false ∧ y.isNaN = false ∧ (x = y ∨ x.isZero = true ∧ y.isZero = true) := by
  have bits : x.bits = y.bits ↔ x = y := by
    cases x
    cases y
    simp
  simp [same, bits, and_assoc]

theorem same_trans (x y z : Double) (first : x.same y = true) (second : y.same z = true) :
    x.same z = true := by
  rw [same_iff] at first second ⊢
  obtain ⟨number, -, likeFirst⟩ := first
  obtain ⟨-, numberLast, likeSecond⟩ := second
  refine ⟨number, numberLast, ?_⟩
  rcases likeFirst with rfl | ⟨zero, zeroMiddle⟩
  · exact likeSecond
  · rcases likeSecond with rfl | ⟨-, zeroLast⟩
    · exact .inr ⟨zero, zeroMiddle⟩
    · exact .inr ⟨zero, zeroLast⟩

/-- Only a NaN does not have its own value. -/
theorem same_self_iff {x : Double} : x.same x = true ↔ x.isNaN = false := by
  rw [same_iff]
  simp

end Double

namespace Chain

/-! ## §2 The parts of a union -/

theorem mem_components_merge {a b : Chain} {c : Component} :
    c ∈ (a.merge b).components ↔ c ∈ a.components ∨ c ∈ b.components := by
  rw [components_merge, mem_foldl_keepFirst]

/-- A number is in a union when one of the chains has a number of its value. -/
theorem holdsNumber_merge (a b : Chain) (x : Double) :
    (a.merge b).holdsNumber x = (a.holdsNumber x || b.holdsNumber x) := by
  rw [holdsNumber, numbers_merge]
  exact any_foldl_keepNew Double.same_trans b.numbers a.numbers x

/-- The components of the first chain stay in front. -/
theorem Consistent.components_merge {b : Chain} (hb : Consistent b) (a : Chain) :
    (a.merge b).components = a.components ++ b.components.filter fun c => !a.holds c := by
  have new : (b.components.removeAll a.components).Nodup := hb.nodup.filter _
  rw [Chain.components_merge, foldl_keepFirst, eraseDups_of_nodup new]
  rfl

/-- The numbers of the first chain stay in front. -/
theorem Consistent.numbers_merge {b : Chain} (hb : Consistent b) (a : Chain) :
    (a.merge b).numbers = a.numbers ++ b.numbers.filter fun x => !a.holdsNumber x := by
  rw [Chain.numbers_merge, foldl_keepNew hb.numbers_differ]
  rfl

/-! ## §3 Laws of unions -/

theorem merge_empty (a : Chain) : a.merge .empty = a := by
  rw [merge_eq]
  simp [empty]

namespace Consistent

variable {a b : Chain}

theorem empty_merge (ha : Consistent a) : Chain.empty.merge a = a := by
  refine eq_of_components (empty.merge a) ha ?_ ?_ ?_
  · rw [ha.components_merge]
    simp [Chain.empty, holds]
  · rw [qualifier_merge]
    rfl
  · rw [ha.numbers_merge]
    simp [Chain.empty, holdsNumber]

/-- **Unions are associative**, in the order of the components and in the scalars too. -/
theorem merge_assoc (ha : Consistent a) (b c : Chain) :
    (a.merge b).merge c = a.merge (b.merge c) := by
  refine eq_of_components ((ha.merge b).merge c) (ha.merge _) ?_ ?_ ?_
  · simp only [Chain.components_merge]
    exact (foldl_keepFirst_foldl _ _ _).symm
  · simp only [qualifier_merge, Option.or_assoc]
  · simp only [Chain.numbers_merge]
    exact (foldl_keepNew_foldl Double.same_trans _ _ _).symm

/-- A number of a chain is found in it, unless it is a NaN. -/
theorem holdsNumber_of_mem {x : Double} (member : x ∈ a.numbers) :
    a.holdsNumber x = !x.isNaN := by
  rw [holdsNumber]
  cases nan : x.isNaN with
  | false => exact List.any_eq_true.2 ⟨x, member, Double.same_self_iff.2 nan⟩
  | true =>
    refine List.any_eq_false.2 fun y _ like => ?_
    rw [Double.same_iff, nan] at like
    exact absurd like.2.1 (by simp)

/-- A union with itself adds the NaNs again. -/
theorem numbers_merge_self (ha : Consistent a) :
    (a.merge a).numbers = a.numbers ++ a.numbers.filter Double.isNaN := by
  rw [ha.numbers_merge]
  congr 1
  refine List.filter_congr fun x member => ?_
  rw [holdsNumber_of_mem member, Bool.not_not]

/-- **A union of a chain with itself is that chain exactly when it has no NaN to add again.** -/
theorem merge_self_iff (ha : Consistent a) :
    a.merge a = a ↔ ∀ x ∈ a.numbers, x.isNaN = false := by
  constructor
  · intro idle
    have again := ha.numbers_merge_self
    rw [idle, List.self_eq_append_right, List.filter_eq_nil_iff] at again
    simpa using again
  · intro numbers
    refine eq_of_components (ha.merge a) ha ?_ ?_ ?_
    · have none : (a.components.filter fun c => !a.holds c) = [] :=
        List.filter_eq_nil_iff.2 fun c member => by simpa using holds_iff.2 member
      rw [ha.components_merge, none, List.append_nil]
    · rw [qualifier_merge, Option.or_self]
    · have none : a.numbers.filter Double.isNaN = [] :=
        List.filter_eq_nil_iff.2 fun x member => by simp [numbers x member]
      rw [ha.numbers_merge_self, none, List.append_nil]

/-- The order of the chains shows in the order of the components and in the scalars only. -/
theorem same_merge_comm (ha : Consistent a) (hb : Consistent b) :
    (a.merge b).same (b.merge a) = true := by
  rw [same_iff (ha.merge b) (hb.merge a)]
  intro c
  rw [mem_components_merge, mem_components_merge, or_comm]

end Consistent

/-! ## §4 Reached chains -/

/-- **Unions of reached chains.** Uniting is associative on chains as they are stored, and the empty
chain is neutral on both sides. A union with itself changes nothing exactly when there is no NaN.
Chains that are united in either order compare equal. The components and the numbers of the first
chain come first, followed by those of the second that the first does not hold, and the qualifier is
that of the first chain that has one. -/
theorem merge_unites_of_reached {a b : Chain} (ha : Reached a) (hb : Reached b) :
    (∀ c, Reached c → (a.merge b).merge c = a.merge (b.merge c)) ∧
    (Chain.empty.merge a = a ∧ a.merge .empty = a) ∧
    (a.merge a = a ↔ ∀ x ∈ a.numbers, x.isNaN = false) ∧
    (a.merge b).same (b.merge a) = true ∧
    ((a.merge b).components = a.components ++ b.components.filter (fun c => !a.holds c) ∧
      ∀ c, c ∈ (a.merge b).components ↔ c ∈ a.components ∨ c ∈ b.components) ∧
    ((a.merge b).numbers = a.numbers ++ b.numbers.filter (fun x => !a.holdsNumber x) ∧
      ∀ x, (a.merge b).holdsNumber x = (a.holdsNumber x || b.holdsNumber x)) ∧
    ((∀ q, a.qualifier = some q → (a.merge b).qualifier = some q) ∧
      (a.qualifier = none → (a.merge b).qualifier = b.qualifier)) := by
  have first := ha.built.consistent
  have second := hb.built.consistent
  refine ⟨fun c _ => first.merge_assoc b c, ⟨first.empty_merge, merge_empty a⟩,
    first.merge_self_iff, first.same_merge_comm second,
    ⟨second.components_merge a, fun c => mem_components_merge⟩,
    ⟨second.numbers_merge a, holdsNumber_merge a b⟩, ?_, ?_⟩
  · intro q set
    rw [qualifier_merge, set, Option.some_or]
  · intro unset
    rw [qualifier_merge, unset, Option.none_or]

/-- A cost with a NaN and a zero. -/
def nanChain : Chain := ((ofList [tapCost]).addNumber ⟨0x7FF8000000000000⟩).addNumber ⟨0⟩

/-- A parsed effect and the same cost with the other zero, a NaN, and a qualifier. -/
def zeroChain : Chain :=
  ((((Games.Hearthstone.dialect.classify {} "Draw 2").chain.insert tapCost).addNumber
    ⟨0x8000000000000000⟩).addNumber ⟨0x7FF8000000000000⟩).setQualifier (some "once")

/-- The second zero is like the first and not added, the NaN is added once more, also by a union
with itself, and the qualifier of the second chain is taken. -/
theorem merge_unites_of_reached_nan :
    (nanChain.merge zeroChain).merge nanChain = nanChain.merge (zeroChain.merge nanChain) ∧
    nanChain.merge nanChain ≠ nanChain ∧
    (nanChain.merge zeroChain).same (zeroChain.merge nanChain) = true ∧
    nanChain.merge zeroChain ≠ zeroChain.merge nanChain ∧
    (nanChain.merge zeroChain).components.head? = some tapCost ∧
    (nanChain.merge zeroChain).numbers =
      [⟨0x7FF8000000000000⟩, ⟨0⟩, ⟨0x7FF8000000000000⟩] ∧
    (nanChain.merge zeroChain).qualifier = some "once" := by
  have nan : Reached nanChain := ((Reached.ofList _).addNumber _).addNumber _
  have zero : Reached zeroChain :=
    ((((Reached.classified _ _ _).insert _).addNumber _).addNumber _).setQualifier _
  obtain ⟨assoc, -, idle, comm, ⟨components, -⟩, ⟨numbers, -⟩, -, qualifier⟩ :=
    merge_unites_of_reached nan zero
  refine ⟨assoc _ nan, ?_, comm, ?_, ?_, ?_, qualifier rfl⟩
  · rw [ne_eq, idle]
    decide
  · decide +kernel
  · rw [components]
    rfl
  · rw [numbers]
    decide +kernel

end Chain

end AbilityText

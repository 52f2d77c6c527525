/-
AbilityText.Proofs.NumberPolicy — which words a policy takes for numbers, and the category of each.

A policy takes "x" and the numbers within its bounds, which fit into 32 bits and may have a plus in
front (`accepts_iff`). No word of a clause has one, so there it takes "x" and rows of digits only
(`spells_of_accepts`). The word behind a number decides on its category, by the first unit that it
names (`isCategoryBefore_iff`).
-/
import AbilityText.Dialect
import AbilityText.Proofs.Clause.Characters
import AbilityText.Proofs.Text.Numerals

namespace AbilityText.NumberPolicy

variable {policy : NumberPolicy} {word : Text}

/-! ## §1 Words that are taken -/

/-- The word is "x", where the policy allows it, or digits behind a plus or not, for a number within
the bounds that fits into 32 bits. -/
def Takes (policy : NumberPolicy) (word : Text) : Prop :=
  word = ("x" : Text) ∧ policy.allowX = true ∨
    ∃ digits n, (word = digits ∨ word = '+' :: digits) ∧ Text.Spells digits n ∧ n < 2 ^ 32 ∧
      policy.min ≤ n ∧ n ≤ policy.max

/-- **A policy takes what it should.** -/
theorem accepts_iff : policy.accepts word = true ↔ policy.Takes word := by
  rw [accepts, Takes]
  split
  · next x =>
    -- Neither digits nor a plus with digits are "x".
    refine ⟨fun allowed => .inl ⟨x, allowed⟩, ?_⟩
    rintro (⟨-, allowed⟩ | ⟨digits, n, rfl | rfl, spells, -⟩)
    · exact allowed
    · exact absurd x spells.ne_x
    · exact absurd (List.cons.inj x).1 (by decide)
  · next other =>
    simp only [Option.any_eq_true, Text.unsigned?_eq_some_iff, Bool.and_eq_true, decide_eq_true_eq]
    constructor
    · rintro ⟨n, ⟨small, digits, written, spells⟩, low, high⟩
      exact .inr ⟨digits, n, written, spells, small, low, high⟩
    · rintro (⟨x, -⟩ | ⟨digits, n, written, spells, small, low, high⟩)
      · exact absurd x other
      · exact ⟨n, ⟨small, digits, written, spells⟩, low, high⟩

/-- **A word of a clause that the policy takes is "x" or a row of digits.** -/
theorem spells_of_accepts (proper : Clause.IsClauseWord word) (h : policy.accepts word = true) :
    word = ("x" : Text) ∧ policy.allowX = true ∨
      ∃ n, Text.Spells word n ∧ policy.min ≤ n ∧ n ≤ policy.max := by
  refine (accepts_iff.1 h).imp_right ?_
  rintro ⟨digits, n, rfl | rfl, spells, -, bounds⟩
  · exact ⟨n, spells, bounds⟩
  · exact absurd rfl proper.unsigned

/-- A policy that takes "x" takes every row of digits within its bounds. -/
theorem accepts_of_spelled (allowX : policy.allowX = true) (bounded : policy.max < 2 ^ 32)
    (h : word = ("x" : Text) ∨ ∃ n, Text.Spells word n ∧ policy.min ≤ n ∧ n ≤ policy.max) :
    policy.accepts word = true := by
  rw [accepts_iff]
  rcases h with x | ⟨n, spells, low, high⟩
  · exact .inl ⟨x, allowX⟩
  · exact .inr ⟨word, n, .inl rfl, spells, high.trans_lt bounded, low, high⟩

/-- A number has no singular form. -/
theorem singulars_of_accepts (h : policy.accepts word = true) : Clause.singulars word = [] := by
  apply Clause.singulars_eq_nil
  rcases accepts_iff.1 h with ⟨rfl, -⟩ | ⟨digits, n, written, spells, -⟩
  · decide
  · have noDigit : 's' ∉ digits := fun member => absurd (spells.2.1 's' member).2 (by decide)
    rcases written with rfl | rfl
    · exact noDigit
    · simpa using noDigit

/-! ## §2 The category of a number -/

/-- The unit is the next word, or one of its singular forms. -/
def Names (unit : Text) (next : Option Text) : Prop :=
  ∃ word, next = some word ∧ (unit = word ∨ unit ∈ Clause.singulars word)

/-- The category of a number that stands before `next`: that of the first declared unit that is
named there, or that of plain numbers when none is. -/
inductive IsCategoryBefore (policy : NumberPolicy) (next : Option Text) : Category → Prop
  | unit {passed behind : List (Text × Category)} {unit : Text × Category} :
      policy.units = passed ++ unit :: behind → Names unit.1 next →
      (∀ other ∈ passed, ¬Names other.1 next) → IsCategoryBefore policy next unit.2
  | plain : (∀ unit ∈ policy.units, ¬Names unit.1 next) →
      IsCategoryBefore policy next policy.category

theorem names_some_iff {unit : Text} :
    Names unit (some word) ↔ (unit == word || (Clause.singulars word).contains unit) = true := by
  simp [Names]

theorem not_names_none (unit : Text) : ¬Names unit none := by
  rintro ⟨word, none, -⟩
  cases none

theorem isCategoryBefore_categoryBefore (policy : NumberPolicy) (next : Option Text) :
    policy.IsCategoryBefore next (policy.categoryBefore next) := by
  unfold categoryBefore
  split
  · exact .plain fun unit _ => not_names_none unit.1
  · next word =>
    cases found : policy.units.find? fun unit =>
        unit.1 == word || (Clause.singulars word).contains unit.1 with
    | none =>
      rw [List.find?_eq_none] at found
      exact .plain fun unit member named => found unit member (names_some_iff.1 named)
    | some unit =>
      obtain ⟨named, passed, behind, split, others⟩ := List.find?_eq_some_iff_append.1 found
      refine .unit split (names_some_iff.2 named) fun other member otherNamed => ?_
      have not := others other member
      rw [names_some_iff.1 otherNamed] at not
      simp at not

/-- No two units are the first one that is named. -/
theorem IsCategoryBefore.eq_categoryBefore {next : Option Text} {category : Category}
    (h : policy.IsCategoryBefore next category) : category = policy.categoryBefore next := by
  cases next with
  | none =>
    rcases h with ⟨-, named, -⟩ | -
    · exact absurd named (not_names_none _)
    · rfl
  | some word =>
    rw [categoryBefore]
    cases h with
    | @unit passed behind unit split named others =>
      have found : policy.units.find? (fun unit =>
          unit.1 == word || (Clause.singulars word).contains unit.1) = some unit := by
        refine List.find?_eq_some_iff_append.2
          ⟨names_some_iff.1 named, passed, behind, split, fun other member => ?_⟩
        simpa using mt names_some_iff.2 (others other member)
      rw [found]
      rfl
    | plain none =>
      rw [List.find?_eq_none.2 fun unit member => mt names_some_iff.2 (none unit member)]
      rfl

/-- **A number gets the category that the next word gives it, and no other.** -/
theorem isCategoryBefore_iff {next : Option Text} {category : Category} :
    policy.IsCategoryBefore next category ↔ category = policy.categoryBefore next := by
  refine ⟨IsCategoryBefore.eq_categoryBefore, ?_⟩
  rintro rfl
  exact isCategoryBefore_categoryBefore policy next

end AbilityText.NumberPolicy

/-
AbilityText.Proofs.Text.Numerals — rows of ASCII digits and the numbers that they spell.

A row of digits spells one number, whatever zeros it opens with. The other way round, a number has
one row that no zero opens (`Spells.eq_of_spells`): it holds the digits of the number in base ten.
A reader of numbers of bounded size takes such rows, and takes them behind a plus as well
(`unsigned?_eq_some_iff`).
-/
import Mathlib.Data.Nat.Digits.Lemmas
import AbilityText.Proofs.Text.Words
import AbilityText.Text.Letter

namespace AbilityText.Text

/-! ## §1 Rows of digits -/

/-- A non-empty row of ASCII digits that spells the number in base ten, whatever zeros it opens
with. -/
def Spells (t : Text) (n : Nat) : Prop :=
  t ≠ [] ∧ (∀ c ∈ t, '0' ≤ c ∧ c ≤ '9') ∧
    n = Nat.ofDigits 10 (t.reverse.map fun c => c.toNat - '0'.toNat)

theorem spells_of_natural? {t : Text} {n : Nat} (h : natural? t = some n) : Spells t n := by
  unfold natural? at h
  split at h
  · next digits =>
    rw [Bool.and_eq_true, Bool.not_eq_true', List.isEmpty_eq_false_iff, List.all_eq_true] at digits
    refine ⟨digits.1, fun c hc => ?_, ?_⟩
    · simpa [isAsciiDigit] using digits.2 c hc
    · rw [← Option.some.inj h, Nat.ofDigits_eq_foldr, List.foldr_map, List.foldr_reverse]
      simp only [Nat.add_comm, Nat.cast_id]
  · simp at h

variable {t t' : Text} {n m : Nat}

/-- A row of digits spells one number. -/
theorem Spells.unique (h : Spells t n) (h' : Spells t m) : n = m := h.2.2.trans h'.2.2.symm

theorem Spells.ne_x (h : Spells t n) : t ≠ ("x" : Text) := by
  rintro rfl
  exact absurd (h.2.1 'x' (by simp)).2 (by decide)

theorem natural?_of_spells (h : Spells t n) : natural? t = some n := by
  have digits : (!t.isEmpty && t.all isAsciiDigit) = true := by
    rw [Bool.and_eq_true, Bool.not_eq_true', List.isEmpty_eq_false_iff, List.all_eq_true]
    exact ⟨h.1, fun c member => by simpa [isAsciiDigit] using h.2.1 c member⟩
  have value : natural? t = some _ := if_pos digits
  rw [value, h.unique (spells_of_natural? value)]

/-- No plus stands in a row of digits. -/
theorem Spells.not_mem_plus (h : Spells t n) : '+' ∉ t := fun member =>
  absurd (h.2.1 '+' member).1 (by decide)

/-- **What is read as a number below `size`**: digits that spell it, behind a plus or not. -/
theorem unsigned?_eq_some_iff {size : Nat} : unsigned? size t = some n ↔
    n < size ∧ ∃ digits, (t = digits ∨ t = '+' :: digits) ∧ Spells digits n := by
  rw [unsigned?, Option.filter_eq_some_iff, decide_eq_true_eq, and_comm]
  refine and_congr_right fun _ => ⟨fun natural => ?_, ?_⟩
  · cases plus : after? "+" t with
    | none =>
      rw [plus] at natural
      exact ⟨t, .inl rfl, spells_of_natural? natural⟩
    | some digits =>
      rw [plus] at natural
      exact ⟨digits, .inr (after?_eq_some plus), spells_of_natural? natural⟩
  · rintro ⟨digits, rfl | rfl, spells⟩
    · have none : after? "+" t = none := by
        refine after?_eq_none ?_
        rintro ⟨rest, rfl⟩
        exact spells.not_mem_plus (by simp)
      rw [none, Option.getD_none, natural?_of_spells spells]
    · have some : after? "+" ('+' :: digits) = some digits := after?_append ['+'] digits
      rw [some, Option.getD_some, natural?_of_spells spells]

/-! ## §2 Rows without zeros in front -/

/-- The digit that a character stands for. -/
def digit (c : Char) : Nat := c.toNat - '0'.toNat

theorem ofNat_digit {c : Char} (low : '0' ≤ c) : Char.ofNat ('0'.toNat + digit c) = c := by
  have low : '0'.toNat ≤ c.toNat := low
  rw [digit, Nat.add_sub_cancel' low, Char.ofNat_toNat]

theorem digit_lt {c : Char} (high : c ≤ '9') : digit c < 10 := by
  have high : c.toNat ≤ '9'.toNat := high
  have zero : '0'.toNat = 48 := rfl
  have nine : '9'.toNat = 57 := rfl
  rw [digit]
  omega

/-- Without a zero in front, the digits of a row are those of its number, the last one first. -/
theorem Spells.digits_eq (h : Spells t n) (plain : t.head? ≠ some '0') :
    Nat.digits 10 n = t.reverse.map digit := by
  obtain ⟨-, digits, rfl⟩ := h
  refine Nat.digits_ofDigits 10 (by omega) (t.reverse.map digit) ?_ ?_
  · intro d member
    obtain ⟨c, inRow, rfl⟩ := List.mem_map.1 member
    exact digit_lt (digits c (List.mem_reverse.1 inRow)).2
  · intro row zero
    cases t with
    | nil => exact row rfl
    | cons c rest =>
      have first : digit c = 0 := by simpa using zero
      have own := ofNat_digit (digits c (by simp)).1
      rw [first] at own
      exact plain (congrArg some own.symm)

/-- A number has one spelling without a zero in front. -/
theorem Spells.eq_of_spells (h : Spells t n) (h' : Spells t' n) (plain : t.head? ≠ some '0')
    (plain' : t'.head? ≠ some '0') : t = t' := by
  have recover : ∀ {t : Text} {n : Nat}, Spells t n →
      (t.reverse.map digit).map (fun d => Char.ofNat ('0'.toNat + d)) = t.reverse := by
    intro t n h
    rw [List.map_map]
    refine (List.map_congr_left fun c member => ?_).trans (List.map_id _)
    exact ofNat_digit (h.2.1 c (List.mem_reverse.1 member)).1
  have same := (h.digits_eq plain).symm.trans (h'.digits_eq plain')
  have reversed := congrArg (List.map fun d => Char.ofNat ('0'.toNat + d)) same
  rw [recover h, recover h'] at reversed
  exact List.reverse_injective reversed

/-- The decimal digits of a number spell it. -/
theorem spells_ofNat (n : Nat) : Spells (ofNat n) n := by
  have digits : (!(ofNat n).isEmpty && (ofNat n).all isAsciiDigit) = true := by
    rw [Bool.and_eq_true, Bool.not_eq_true', List.isEmpty_eq_false_iff, List.all_eq_true]
    refine ⟨Nat.toDigits_ne_nil, fun c member => ?_⟩
    have digit := Nat.isDigit_of_mem_toDigits (by omega) (by omega) member
    simpa [isAsciiDigit, Char.isDigit, Char.le_def] using digit
  refine spells_of_natural? ?_
  rw [natural?, if_pos digits]
  exact congrArg some (Nat.ofDigitChars_toDigits (by omega) (by omega))

/-- They open with a zero for zero only. -/
theorem head?_ofNat {n : Nat} (positive : 0 < n) : (ofNat n).head? ≠ some '0' := by
  induction n using Nat.base_induction 10 (by omega) with
  | single n small =>
    have each : ∀ n < 10, 0 < n → [n.digitChar].head? ≠ some '0' := by decide
    rw [ofNat, Nat.toDigits_of_lt_base small]
    exact each n small positive
  | digit n k small before ih =>
    have opens : (ofNat (10 * n + k)).head? = (ofNat n).head? := by
      rw [ofNat, ← Nat.toDigits_append_toDigits (by omega) before small, List.head?_append,
        ofNat, List.head?_eq_some_head Nat.toDigits_ne_nil, Option.some_or]
    rw [opens]
    exact ih before

end AbilityText.Text

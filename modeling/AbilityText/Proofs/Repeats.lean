/-
AbilityText.Proofs.Repeats — lists that are built up without repeats.

Adding values one by one to the end of a list, each only when the list does not have it yet, is how
chains, vocabularies and listings of components come about. `foldl_keepFirst` says what that makes:
the first occurrences, in order.

What counts as a repeat need not be equality. Adding lists one after another is associative as long
as likeness is transitive (`foldl_keepNew_foldl`), even where a value is not like itself.
-/

namespace AbilityText

/-! ## §1 Values that are like no earlier one -/

section
variable {α : Type} {alike : α → α → Bool}

/-- The list with a value at its end, or as it was when it has a value that this one is like. -/
def keepNew (alike : α → α → Bool) (seen : List α) (x : α) : List α :=
  if seen.any fun y => alike y x then seen else seen ++ [x]

/-- Values that are not like each other are kept, but for those that are like an earlier one. -/
theorem foldl_keepNew {xs : List α} (h : xs.Pairwise fun x y => alike x y = false)
    (seen : List α) :
    xs.foldl (keepNew alike) seen = seen ++ xs.filter fun x => !seen.any fun y => alike y x := by
  induction xs generalizing seen with
  | nil => simp
  | cons x xs ih =>
    obtain ⟨first, later⟩ := List.pairwise_cons.1 h
    rw [List.foldl_cons, ih later, keepNew, List.filter_cons]
    split
    · next old => rw [old]; rfl
    · next new =>
      have others : (xs.filter fun z => !(seen ++ [x]).any fun y => alike y z) =
          xs.filter fun z => !seen.any fun y => alike y z :=
        List.filter_congr fun z hz => by simp [first z hz]
      rw [others, if_pos (by simpa using new), List.append_assoc]
      rfl

section
variable (trans : ∀ x y z, alike x y = true → alike y z = true → alike x z = true)
include trans

/-- What is like an added value is like some value of the list that comes about. -/
theorem any_foldl_keepNew (xs seen : List α) (z : α) :
    ((xs.foldl (keepNew alike) seen).any fun y => alike y z) =
      (seen.any (fun y => alike y z) || xs.any fun y => alike y z) := by
  induction xs generalizing seen with
  | nil => simp
  | cons x xs ih =>
    rw [List.foldl_cons, ih, List.any_cons, ← Bool.or_assoc]
    congr 1
    unfold keepNew
    split
    · next old =>
      -- The value that stands for `x` is like `z` when `x` is.
      obtain ⟨y, hy, like⟩ := List.any_eq_true.1 old
      cases hz : alike x z with
      | false => simp
      | true =>
        have found : (seen.any fun y => alike y z) = true :=
          List.any_eq_true.2 ⟨y, hy, trans y x z like hz⟩
        simp [found]
    · simp

/-- Adding what a list adds to another is adding the one list and then the other. -/
theorem foldl_keepNew_foldl (xs ys seen : List α) :
    (xs.foldl (keepNew alike) ys).foldl (keepNew alike) seen =
      xs.foldl (keepNew alike) (ys.foldl (keepNew alike) seen) := by
  induction xs generalizing ys with
  | nil => rfl
  | cons x xs ih =>
    have step : (keepNew alike ys x).foldl (keepNew alike) seen =
        keepNew alike (ys.foldl (keepNew alike) seen) x := by
      have found := any_foldl_keepNew trans ys seen x
      cases old : ys.any fun y => alike y x with
      | true => simp [keepNew, old, found]
      | false => simp [keepNew, old]
    rw [List.foldl_cons, ih, step, List.foldl_cons]

end

end

/-! ## §2 Values that are equal to no earlier one -/

section
variable {α : Type} [BEq α] [LawfulBEq α]

/-- The list with a value at its end, or as it was when it has the value. -/
def keepFirst (seen : List α) (x : α) : List α := if seen.contains x then seen else seen ++ [x]

/-- Adding the values of `xs` to `seen` adds the first occurrences of those that are new. -/
theorem foldl_keepFirst (xs seen : List α) :
    xs.foldl keepFirst seen = seen ++ (xs.removeAll seen).eraseDups := by
  induction xs generalizing seen with
  | nil => simp
  | cons x xs ih =>
    rw [List.foldl_cons, ih, List.cons_removeAll, keepFirst]
    split
    · next old => rw [if_neg (by simpa using old)]
    · next new =>
      have later : xs.removeAll (seen ++ [x]) = (xs.removeAll seen).filter fun y => !y == x := by
        rw [List.removeAll, List.removeAll, List.filter_filter]
        refine List.filter_congr fun y _ => ?_
        rw [Bool.eq_iff_iff]
        simp [List.mem_append, not_or, and_comm]
      rw [if_pos (by simpa using new), List.eraseDups_cons, later, List.append_assoc]
      rfl

theorem mem_foldl_keepFirst {xs seen : List α} {x : α} :
    x ∈ xs.foldl keepFirst seen ↔ x ∈ seen ∨ x ∈ xs := by
  rw [foldl_keepFirst, List.mem_append, List.mem_eraseDups, List.removeAll, List.mem_filter]
  by_cases h : x ∈ seen <;> simp [h]

theorem nodup_foldl_keepFirst (xs : List α) {seen : List α} (h : seen.Nodup) :
    (xs.foldl keepFirst seen).Nodup := by
  induction xs generalizing seen with
  | nil => exact h
  | cons x xs ih =>
    refine ih ?_
    unfold keepFirst
    split
    · exact h
    · next new =>
      have new : x ∉ seen := by simpa using new
      rw [List.nodup_append]
      refine ⟨h, by simp, fun y old z last => ?_⟩
      rw [List.mem_singleton.1 last]
      exact fun same => new (same ▸ old)

/-- A value is new when it is equal to none. -/
theorem keepFirst_eq_keepNew : keepFirst (α := α) = keepNew fun x y => x == y := by
  funext seen x
  have same : seen.contains x = seen.any fun y => y == x := by
    rw [Bool.eq_iff_iff]
    simp
  rw [keepFirst, keepNew, same]

/-- Adding the first occurrences adds what adding all values adds. -/
theorem foldl_keepFirst_foldl (xs ys seen : List α) :
    (xs.foldl keepFirst ys).foldl keepFirst seen =
      xs.foldl keepFirst (ys.foldl keepFirst seen) := by
  rw [keepFirst_eq_keepNew]
  refine foldl_keepNew_foldl (fun x y z first second => ?_) xs ys seen
  rw [beq_iff_eq] at first second ⊢
  exact first.trans second

theorem eraseDups_of_nodup {xs : List α} (h : xs.Nodup) : xs.eraseDups = xs := by
  induction xs with
  | nil => rfl
  | cons x xs ih =>
    obtain ⟨new, nodup⟩ := List.nodup_cons.1 h
    have others : xs.filter (fun y => !y == x) = xs := by
      refine List.filter_eq_self.2 fun y hy => ?_
      have : y ≠ x := fun same => new (same ▸ hy)
      simpa using this
    rw [List.eraseDups_cons, others, ih nodup]

end

end AbilityText

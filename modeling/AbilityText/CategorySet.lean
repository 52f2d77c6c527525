/-
AbilityText.CategorySet — sets of categories, one bit per category.

Which categories a chain carries, which a rule requires and which a pattern admits are all sets of
this kind, so each of those checks is one operation on bits.
-/
import AbilityText.Category

namespace AbilityText

/-- A set of categories: bit `c.index` is set when `c` is a member. -/
structure CategorySet where
  mask : BitVec 34
deriving DecidableEq

namespace CategorySet

/-- No category. -/
def empty : CategorySet := ⟨0⟩

/-- The set with one member. -/
def single (c : Category) : CategorySet := ⟨BitVec.twoPow 34 c.index.val⟩

/-- Is the category a member? -/
def has (s : CategorySet) (c : Category) : Bool := s.mask.getLsbD c.index.val

/-- The categories in either set. -/
def union (s t : CategorySet) : CategorySet := ⟨s.mask ||| t.mask⟩

/-- The categories in both sets. -/
def inter (s t : CategorySet) : CategorySet := ⟨s.mask &&& t.mask⟩

/-- The categories of the first set that are not in the second. -/
def diff (s t : CategorySet) : CategorySet := ⟨s.mask &&& ~~~t.mask⟩

/-- The set with one more member. -/
def insert (c : Category) (s : CategorySet) : CategorySet := s.union (single c)

/-- The set of the listed categories. -/
def ofList (cs : List Category) : CategorySet := cs.foldl (fun s c => s.insert c) empty

/-- Is every member of `t` a member of `s`? -/
def includes (s t : CategorySet) : Bool := s.inter t == t

/-- Do the sets share a member? -/
def meets (s t : CategorySet) : Bool := s.inter t != empty

/-- The members in declaration order. -/
def members (s : CategorySet) : List Category := Category.all.filter s.has

/-- The number of members. -/
def size (s : CategorySet) : Nat := s.members.length

/-- The set read as a binary number. -/
def bits (s : CategorySet) : Nat := s.mask.toNat

/-! ## Members of the results -/

@[simp] theorem has_empty (c : Category) : empty.has c = false := by simp [has, empty]

@[simp] theorem has_single (c d : Category) : (single c).has d = decide (c = d) := by
  have bit : (single c).has d = decide (c.index = d.index) := by
    rw [has, single, BitVec.getLsbD_twoPow, decide_eq_true c.index.isLt, Bool.true_and]
    exact decide_eq_decide.2 Fin.ext_iff.symm
  rw [bit]
  exact decide_eq_decide.2 ⟨Category.index_injective, congrArg _⟩

@[simp] theorem has_union (s t : CategorySet) (c : Category) :
    (s.union t).has c = (s.has c || t.has c) := by simp [has, union]

@[simp] theorem has_inter (s t : CategorySet) (c : Category) :
    (s.inter t).has c = (s.has c && t.has c) := by simp [has, inter]

@[simp] theorem has_diff (s t : CategorySet) (c : Category) :
    (s.diff t).has c = (s.has c && !t.has c) := by simp [has, diff]

@[simp] theorem has_insert (c d : Category) (s : CategorySet) :
    (s.insert c).has d = (s.has d || decide (c = d)) := by simp [insert]

/-- A set is known by its members. -/
theorem ext_has {s t : CategorySet} (h : ∀ c, s.has c = t.has c) : s = t := by
  cases s with | mk a => cases t with | mk b =>
  congr 1
  apply BitVec.eq_of_getLsbD_eq
  intro i hi
  obtain ⟨c, hc⟩ := Category.exists_index_eq ⟨i, hi⟩
  have := h c
  simpa [has, hc] using this

/-- The check on bits is inclusion. -/
theorem includes_iff {s t : CategorySet} :
    s.includes t = true ↔ ∀ c, t.has c = true → s.has c = true := by
  rw [includes, beq_iff_eq]
  constructor
  · intro h c hc
    rw [← h, has_inter] at hc
    exact (Bool.and_eq_true_iff.1 hc).1
  · intro h
    refine ext_has fun c => ?_
    rw [has_inter]
    cases ht : t.has c with
    | false => exact Bool.and_false _
    | true => rw [h c ht]; rfl

/-- The check on bits asks for a common member. -/
theorem meets_iff {s t : CategorySet} :
    s.meets t = true ↔ ∃ c, s.has c = true ∧ t.has c = true := by
  rw [meets, bne_iff_ne]
  constructor
  · intro h
    apply Classical.byContradiction
    intro none
    refine h (ext_has fun c => ?_)
    rw [has_inter, has_empty]
    exact Bool.eq_false_iff.2 fun both => none ⟨c, Bool.and_eq_true_iff.1 both⟩
  · rintro ⟨c, hs, ht⟩ h
    have := congrArg (fun u => u.has c) h
    simp [hs, ht] at this

theorem has_foldl_insert (cs : List Category) (s : CategorySet) (c : Category) :
    (cs.foldl (fun s c => s.insert c) s).has c = (s.has c || cs.contains c) := by
  induction cs generalizing s with
  | nil => simp
  | cons d rest ih =>
    rw [List.foldl_cons, ih, has_insert, List.contains_cons, Bool.or_assoc]
    congr 2
    exact decide_eq_decide.2 eq_comm

@[simp] theorem has_ofList (cs : List Category) (c : Category) :
    (ofList cs).has c = cs.contains c := by
  simp [ofList, has_foldl_insert]

theorem has_ofList_iff {cs : List Category} {c : Category} : (ofList cs).has c = true ↔ c ∈ cs := by
  rw [has_ofList, List.contains_iff_mem]

theorem mem_members {s : CategorySet} {c : Category} : c ∈ s.members ↔ s.has c = true := by
  simp [members, Category.mem_all]

end CategorySet

end AbilityText

/-
AbilityText.Catalog — finite maps from texts, kept in the code point order of their keys.

The registry of games, the templates of the generator and the checks of the validator are
catalogs: each key has one entry, and entries are listed in the order of their keys whatever the
order in which they came.
-/
import AbilityText.Text.Basic

namespace AbilityText

namespace Catalog

/-! ## Sorted entries -/

/-- The entries with the value of one key set, in key order. -/
def insertEntry {β : Type} (key : Text) (value : β) : List (Text × β) → List (Text × β)
  | [] => [(key, value)]
  | entry :: rest =>
    if key < entry.1 then (key, value) :: entry :: rest
    else if entry.1 < key then entry :: insertEntry key value rest
    else (key, value) :: rest

theorem mem_insertEntry {β : Type} {key : Text} {value : β} {entries : List (Text × β)}
    {e : Text × β} (h : e ∈ insertEntry key value entries) : e = (key, value) ∨ e ∈ entries := by
  induction entries with
  | nil => simpa [insertEntry] using h
  | cons entry rest ih =>
    unfold insertEntry at h
    split at h
    · simpa using h
    · split at h
      · rcases List.mem_cons.1 h with h | h
        · exact .inr (h ▸ List.mem_cons_self)
        · exact (ih h).imp_right (List.mem_cons_of_mem _)
      · rcases List.mem_cons.1 h with h | h
        · exact .inl h
        · exact .inr (List.mem_cons_of_mem _ h)

/-- Entries in strictly ascending key order. -/
def Ascending {β : Type} (entries : List (Text × β)) : Prop :=
  entries.Pairwise fun a b => a.1 < b.1

theorem ascending_insertEntry {β : Type} (key : Text) (value : β) {entries : List (Text × β)}
    (h : Ascending entries) : Ascending (insertEntry key value entries) := by
  induction entries with
  | nil => simp [insertEntry, Ascending]
  | cons entry rest ih =>
    obtain ⟨first, later⟩ := List.pairwise_cons.1 h
    unfold insertEntry
    split
    · next lt =>
      refine List.pairwise_cons.2 ⟨fun e he => ?_, h⟩
      rcases List.mem_cons.1 he with rfl | he
      · exact lt
      · exact List.lt_trans lt (first e he)
    · next notLt =>
      split
      · next gt =>
        refine List.pairwise_cons.2 ⟨fun e he => ?_, ih later⟩
        rcases mem_insertEntry he with rfl | he
        · exact gt
        · exact first e he
      · next notGt =>
        have same : key = entry.1 :=
          List.le_antisymm (List.not_lt.1 notGt) (List.not_lt.1 notLt)
        exact List.pairwise_cons.2 ⟨fun e he => same ▸ first e he, later⟩

/-! ## Looking up -/

/-- The first entry answers for its own key. -/
theorem lookup_cons {β : Type} (other : Text) (entry : Text × β) (rest : List (Text × β)) :
    (entry :: rest).lookup other = if other = entry.1 then some entry.2 else rest.lookup other := by
  by_cases h : other = entry.1
  · rw [if_pos h, List.lookup_cons, beq_iff_eq.2 h]
  · rw [if_neg h, List.lookup_cons, beq_eq_false_iff_ne.2 h]

/-- Setting a key changes the answer for that key only. -/
theorem lookup_insertEntry {β : Type} (key other : Text) (value : β) (entries : List (Text × β)) :
    (insertEntry key value entries).lookup other =
      if other = key then some value else entries.lookup other := by
  induction entries with
  | nil => exact lookup_cons other (key, value) []
  | cons entry rest ih =>
    unfold insertEntry
    split
    · exact lookup_cons other (key, value) (entry :: rest)
    · next notLt =>
      split
      · next gt =>
        have differ : entry.1 ≠ key := fun h => List.lt_irrefl entry.1 (h ▸ gt)
        rw [lookup_cons, ih, lookup_cons]
        by_cases h : other = key
        · rw [if_pos h, if_pos h, if_neg (h ▸ differ.symm)]
        · rw [if_neg h, if_neg h]
      · next notGt =>
        have same : key = entry.1 :=
          List.le_antisymm (List.not_lt.1 notGt) (List.not_lt.1 notLt)
        rw [lookup_cons, lookup_cons, same]
        by_cases h : other = entry.1
        · rw [if_pos h, if_pos h]
        · rw [if_neg h, if_neg h, if_neg h]

/-- Leaving a key out changes the answer for that key only. -/
theorem lookup_filter_ne {β : Type} (key other : Text) (entries : List (Text × β)) :
    (entries.filter fun e => decide (e.1 ≠ key)).lookup other =
      if other = key then none else entries.lookup other := by
  induction entries with
  | nil => exact (ite_self none).symm
  | cons entry rest ih =>
    rw [List.filter_cons]
    by_cases same : entry.1 = key
    · rw [if_neg (by simp [same]), ih, lookup_cons, same]
      by_cases h : other = key
      · rw [if_pos h, if_pos h]
      · rw [if_neg h, if_neg h, if_neg h]
    · rw [if_pos (by simp [same]), lookup_cons, ih, lookup_cons]
      by_cases h : other = key
      · rw [if_pos h, if_pos h, if_neg (h ▸ Ne.symm same)]
      · rw [if_neg h, if_neg h]

/-- No entry of a list whose keys are all larger answers for a key. -/
theorem lookup_eq_none_of_lt {β : Type} {key : Text} {entries : List (Text × β)}
    (h : ∀ e ∈ entries, key < e.1) : entries.lookup key = none := by
  rw [List.lookup_eq_none_iff]
  intro e member
  have differ : key ≠ e.1 := fun same => List.lt_irrefl e.1 (same ▸ h e member)
  simpa using differ

/-- Where both lists give the same answers, the first key of the one is not below the first key of
the other: it would have an answer in its own list only. -/
theorem not_lt_of_lookup_eq {β : Type} {entry other : Text × β} {entries others : List (Text × β)}
    (ascending : Ascending (other :: others))
    (same : ∀ key, (entry :: entries).lookup key = (other :: others).lookup key) :
    ¬entry.1 < other.1 := by
  intro lt
  have missing : (other :: others).lookup entry.1 = none := by
    refine lookup_eq_none_of_lt fun e member => ?_
    rcases List.mem_cons.1 member with rfl | member
    · exact lt
    · exact List.lt_trans lt ((List.pairwise_cons.1 ascending).1 e member)
  have answer := same entry.1
  rw [lookup_cons, if_pos rfl, missing] at answer
  exact absurd answer (by simp)

/-- Ascending entries with the same answers are the same entries. -/
theorem eq_of_lookup_eq {β : Type} : ∀ {entries others : List (Text × β)}, Ascending entries →
    Ascending others → (∀ key, entries.lookup key = others.lookup key) → entries = others
  | [], [], _, _, _ => rfl
  | [], other :: others, _, _, same => by
    have answer := same other.1
    simp [lookup_cons] at answer
  | entry :: entries, [], _, _, same => by
    have answer := same entry.1
    simp [lookup_cons] at answer
  | entry :: entries, other :: others, ascending, ascending', same => by
    obtain ⟨first, later⟩ := List.pairwise_cons.1 ascending
    obtain ⟨first', later'⟩ := List.pairwise_cons.1 ascending'
    have key : entry.1 = other.1 :=
      List.le_antisymm
        (List.not_lt.1 (not_lt_of_lookup_eq ascending fun asked => (same asked).symm))
        (List.not_lt.1 (not_lt_of_lookup_eq ascending' same))
    have value : entry.2 = other.2 := by
      have answer := same entry.1
      rw [lookup_cons, if_pos rfl, lookup_cons, if_pos key] at answer
      exact Option.some.inj answer
    have rest : entries = others := eq_of_lookup_eq later later' fun asked => by
      by_cases head : asked = entry.1
      · rw [head, lookup_eq_none_of_lt first, key, lookup_eq_none_of_lt first']
      · have answer := same asked
        rwa [lookup_cons, if_neg head, lookup_cons, if_neg (key ▸ head)] at answer
    rw [rest, Prod.ext key value]

/-! ## Taking out -/

/-- The value under a key, and the entries without it. The search stops at the key. -/
def takeEntry {β : Type} (key : Text) : List (Text × β) → Option β × List (Text × β)
  | [] => (none, [])
  | entry :: rest =>
    if entry.1 = key then (some entry.2, rest)
    else ((takeEntry key rest).1, entry :: (takeEntry key rest).2)

/-- Keys are not repeated, so no entry of the key is left behind the first. -/
theorem takeEntry_eq {β : Type} (key : Text) {entries : List (Text × β)}
    (h : Ascending entries) :
    takeEntry key entries = (entries.lookup key, entries.filter fun e => decide (e.1 ≠ key)) := by
  induction entries with
  | nil => rfl
  | cons entry rest ih =>
    obtain ⟨first, later⟩ := List.pairwise_cons.1 h
    rw [takeEntry, lookup_cons, List.filter_cons]
    by_cases same : entry.1 = key
    · have others : (rest.filter fun e => decide (e.1 ≠ key)) = rest := by
        refine List.filter_eq_self.2 fun e member => decide_eq_true fun equal => ?_
        have less := first e member
        rw [same, equal] at less
        exact List.lt_irrefl key less
      rw [if_pos same, if_pos same.symm, if_neg (by simp [same]), others]
    · rw [if_neg same, if_neg (Ne.symm same), if_pos (by simp [same]), ih later]

end Catalog

/-- A finite map from texts with its entries in ascending key order. -/
structure Catalog (β : Type) where
  entries : List (Text × β)
  ascending : Catalog.Ascending entries

namespace Catalog

variable {β : Type}

/-- The catalog without entries. -/
def empty : Catalog β := ⟨[], List.Pairwise.nil⟩

/-- The catalog with a value under a key, in place of an earlier one. -/
def insert (key : Text) (value : β) (catalog : Catalog β) : Catalog β :=
  ⟨insertEntry key value catalog.entries, ascending_insertEntry key value catalog.ascending⟩

/-- The catalog without a key. -/
def erase (key : Text) (catalog : Catalog β) : Catalog β :=
  ⟨catalog.entries.filter fun e => decide (e.1 ≠ key), catalog.ascending.filter _⟩

/-- The value under a key, and the catalog without the key. -/
def take (key : Text) (catalog : Catalog β) : Option β × Catalog β :=
  ((takeEntry key catalog.entries).1,
    ⟨(takeEntry key catalog.entries).2, by
      rw [takeEntry_eq key catalog.ascending]
      exact catalog.ascending.filter _⟩)

/-- The catalog of the listed entries; of two values under one key the later stays. -/
def ofList (entries : List (Text × β)) : Catalog β :=
  entries.foldl (fun catalog e => catalog.insert e.1 e.2) empty

/-- The value under a key. -/
def get? (catalog : Catalog β) (key : Text) : Option β := catalog.entries.lookup key

/-- Is there a value under the key? -/
def contains (catalog : Catalog β) (key : Text) : Bool := (catalog.get? key).isSome

/-- The keys in ascending order. -/
def keys (catalog : Catalog β) : List Text := catalog.entries.map Prod.fst

/-- The values in the order of their keys. -/
def values (catalog : Catalog β) : List β := catalog.entries.map Prod.snd

/-! ## The catalog as a map -/

@[simp] theorem get?_empty (key : Text) : (empty : Catalog β).get? key = none := rfl

theorem get?_insert (key other : Text) (value : β) (catalog : Catalog β) :
    (catalog.insert key value).get? other =
      if other = key then some value else catalog.get? other :=
  lookup_insertEntry key other value catalog.entries

theorem get?_erase (key other : Text) (catalog : Catalog β) :
    (catalog.erase key).get? other = if other = key then none else catalog.get? other :=
  lookup_filter_ne key other catalog.entries

/-- Taking a key out gives what a look-up gives, and leaves the catalog without the key. -/
theorem take_eq (key : Text) (catalog : Catalog β) :
    catalog.take key = (catalog.get? key, catalog.erase key) := by
  have cut := takeEntry_eq key catalog.ascending
  simp only [take, get?, erase, cut]

/-- Catalogs with the same values under all keys are the same. -/
theorem ext_get? {catalog other : Catalog β} (h : ∀ key, catalog.get? key = other.get? key) :
    catalog = other := by
  have same := eq_of_lookup_eq catalog.ascending other.ascending h
  obtain ⟨entries, ascending⟩ := catalog
  obtain rfl : entries = other.entries := same
  rfl

/-- A key has one entry, which is the one that is found. -/
theorem mem_entries_iff {catalog : Catalog β} {key : Text} {value : β} :
    (key, value) ∈ catalog.entries ↔ catalog.get? key = some value := by
  rw [get?, List.lookup_eq_some_iff]
  constructor
  · intro member
    obtain ⟨before, after, split⟩ := List.append_of_mem member
    refine ⟨before, after, split, fun e earlier => ?_⟩
    have ascending := catalog.ascending
    rw [Ascending, split, List.pairwise_append] at ascending
    have less : e.1 < key := ascending.2.2 e earlier (key, value) List.mem_cons_self
    have differ : key ≠ e.1 := fun same => List.lt_irrefl key (same ▸ less)
    simpa using differ
  · rintro ⟨before, after, split, -⟩
    rw [split]
    simp

/-- The values are those of some key. -/
theorem mem_values {catalog : Catalog β} {value : β} :
    value ∈ catalog.values ↔ ∃ key, catalog.get? key = some value := by
  simp [values, ← mem_entries_iff]

/-- The keys are those with a value. -/
theorem mem_keys {catalog : Catalog β} {key : Text} :
    key ∈ catalog.keys ↔ (catalog.get? key).isSome := by
  simp [keys, get?, List.lookup_isSome_iff]

theorem keys_ascending (catalog : Catalog β) : catalog.keys.Pairwise (· < ·) :=
  List.pairwise_map.2 catalog.ascending

end Catalog

end AbilityText

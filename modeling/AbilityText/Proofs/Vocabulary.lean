/-
AbilityText.Proofs.Vocabulary — what every vocabulary satisfies that is built from calls.

A vocabulary is built from the empty one by adding phrases and declared values (`Built`), so its
entries are in normal form. Whatever a look-up gives is listed among the values of the category
(`mem_values_of_lookup`) and in normal form (`isNormal_of_lookup`).
-/
import AbilityText.Proofs.Repeats
import AbilityText.Proofs.Text.Normal
import AbilityText.Vocabulary

namespace AbilityText

open Text (IsNormal)

namespace Vocabulary

/-! ## §1 Built vocabularies -/

/-- The vocabularies that calls make. -/
inductive Built : Vocabulary → Prop
  | empty : Built .empty
  | aliases {vocabulary : Vocabulary} (category : Category) (pairs : List (Text × Text)) :
      Built vocabulary → Built (vocabulary.aliases category pairs)
  | declare {vocabulary : Vocabulary} (category : Category) (values : List Text) :
      Built vocabulary → Built (vocabulary.declare category values)

/-- Does every entry of every table satisfy a property? -/
def EntriesSatisfy (P : Text × Text → Prop) (vocabulary : Vocabulary) : Prop :=
  ∀ table ∈ vocabulary.tables, ∀ entry ∈ table.entries, P entry

/-- No canonical text is blank. -/
def HasNoBlank (vocabulary : Vocabulary) : Prop :=
  vocabulary.EntriesSatisfy fun entry => Text.isBlank entry.2 = false

instance (vocabulary : Vocabulary) : Decidable vocabulary.HasNoBlank :=
  inferInstanceAs (Decidable (∀ table ∈ vocabulary.tables, ∀ entry ∈ table.entries,
    Text.isBlank entry.2 = false))

theorem mem_entries_extend {pairs : List (Text × Text)} {table : PhraseTable}
    {entry : Text × Text} (h : entry ∈ (table.extend pairs).entries) :
    entry ∈ table.entries ∨
      ∃ pair ∈ pairs, entry = (Text.normalize pair.1, Text.normalize pair.2) := by
  unfold PhraseTable.extend at h
  generalize table.entries = entries at h ⊢
  induction pairs generalizing entries with
  | nil => exact .inl h
  | cons pair pairs ih =>
    rcases ih _ h with h | ⟨later, member, same⟩
    · rcases List.mem_cons.1 h with rfl | h
      · exact .inr ⟨pair, by simp, rfl⟩
      · exact .inl h
    · exact .inr ⟨later, List.mem_cons_of_mem pair member, same⟩

/-- Adding phrases keeps a property of entries that the normal forms of the phrases have. -/
theorem EntriesSatisfy.aliases {P : Text × Text → Prop} {vocabulary : Vocabulary}
    {category : Category} {pairs : List (Text × Text)} (h : vocabulary.EntriesSatisfy P)
    (new : ∀ pair ∈ pairs, P (Text.normalize pair.1, Text.normalize pair.2)) :
    (vocabulary.aliases category pairs).EntriesSatisfy P := by
  have extended : ∀ table : PhraseTable, (∀ entry ∈ table.entries, P entry) →
      ∀ entry ∈ (table.extend pairs).entries, P entry := by
    intro table old entry member
    rcases mem_entries_extend member with known | ⟨pair, given, rfl⟩
    · exact old entry known
    · exact new pair given
  intro table member
  simp only [Vocabulary.aliases] at member
  split at member
  · obtain ⟨before, memberBefore, rfl⟩ := List.mem_map.1 member
    split
    · exact extended before (h before memberBefore)
    · exact h before memberBefore
  · rcases List.mem_append.1 member with member | member
    · exact h table member
    · rw [List.mem_singleton.1 member]
      exact extended ⟨category, []⟩ (by simp)

theorem Built.entries_isNormal {vocabulary : Vocabulary} (h : Built vocabulary) :
    vocabulary.EntriesSatisfy fun entry => IsNormal entry.1 ∧ IsNormal entry.2 := by
  induction h with
  | empty => intro table member; simp [Vocabulary.empty] at member
  | aliases category pairs _ ih =>
    exact ih.aliases fun pair _ => ⟨Text.isNormal_normalize pair.1, Text.isNormal_normalize pair.2⟩
  | declare category values _ ih => exact ih

theorem Built.words {vocabulary : Vocabulary} (category : Category) (phrases : List Text)
    (h : Built vocabulary) : Built (vocabulary.words category phrases) :=
  h.aliases category _

/-! ## §2 Look-ups -/

/-- A look-up gives the canonical text of an entry. -/
theorem exists_entry_of_lookup {vocabulary : Vocabulary} {category : Category}
    {phrase text : Text} (h : vocabulary.lookup category phrase = some text) :
    ∃ table, vocabulary.table? category = some table ∧ (phrase, text) ∈ table.entries := by
  obtain ⟨table, found, entry⟩ := Option.bind_eq_some_iff.1 h
  obtain ⟨before, after, same, -⟩ := List.lookup_eq_some_iff.1 entry
  exact ⟨table, found, by simp [same]⟩

theorem mem_tables_of_table? {vocabulary : Vocabulary} {category : Category} {table : PhraseTable}
    (h : vocabulary.table? category = some table) :
    table ∈ vocabulary.tables ∧ table.category = category :=
  ⟨List.mem_of_find?_eq_some h, by simpa using List.find?_some h⟩

theorem EntriesSatisfy.of_lookup {P : Text × Text → Prop} {vocabulary : Vocabulary}
    {category : Category} {phrase text : Text} (h : vocabulary.EntriesSatisfy P)
    (found : vocabulary.lookup category phrase = some text) : P (phrase, text) := by
  obtain ⟨table, select, entry⟩ := exists_entry_of_lookup found
  exact h table (mem_tables_of_table? select).1 _ entry

theorem isNormal_of_lookup {vocabulary : Vocabulary} {category : Category} {phrase text : Text}
    (h : Built vocabulary) (found : vocabulary.lookup category phrase = some text) :
    IsNormal text := (h.entries_isNormal.of_lookup found).2

theorem mem_distinct {texts : List Text} {t : Text} : t ∈ distinct texts ↔ t ∈ texts := by
  have : distinct texts = texts.foldl keepFirst [] := rfl
  rw [this, mem_foldl_keepFirst]
  simp

/-- What a look-up gives is listed. -/
theorem mem_values_of_lookup {vocabulary : Vocabulary} {category : Category} {phrase text : Text}
    (h : vocabulary.lookup category phrase = some text) : text ∈ vocabulary.values category := by
  obtain ⟨table, select, entry⟩ := exists_entry_of_lookup h
  refine mem_distinct.2 (List.mem_append_left _ ?_)
  rw [select]
  simpa using ⟨phrase, entry⟩

theorem has_categories_of_lookup {vocabulary : Vocabulary} {category : Category}
    {phrase text : Text} (h : vocabulary.lookup category phrase = some text) :
    vocabulary.categories.has category = true := by
  obtain ⟨table, select, -⟩ := exists_entry_of_lookup h
  obtain ⟨member, rfl⟩ := mem_tables_of_table? select
  rw [categories, CategorySet.has_ofList_iff]
  exact List.mem_append_left _ (List.mem_map_of_mem member)

end Vocabulary

end AbilityText

/-
AbilityText.Proofs.Vocabulary.Calls — a vocabulary answers as the calls that made it say.

A vocabulary keeps phrases and declared values apart: one table for each category that phrases were
given for, with the newest entry first, and beside the tables the declared values in the order in
which they came. What it keeps of one category is what the calls gave for that category, whatever
calls for other categories or of the other kind stood between them (`RecordsCalls`). One step lemma
says what a single call adds (`RecordsCalls.apply`), and every answer is read off the record: a
look-up finds the pair that was given last, and the listed values are the first occurrences.
-/
import Mathlib.Data.List.Induction
import AbilityText.Proofs.Vocabulary

namespace AbilityText

/-! ## §1 First occurrences -/

theorem distinct_eq_eraseDups (texts : List Text) : distinct texts = texts.eraseDups := by
  have own : distinct texts = texts.foldl keepFirst [] := rfl
  have all : texts.removeAll [] = texts := List.filter_eq_self.2 fun _ _ => rfl
  rw [own, foldl_keepFirst, all, List.nil_append]

theorem nodup_distinct (texts : List Text) : (distinct texts).Nodup :=
  nodup_foldl_keepFirst texts List.nodup_nil

namespace Vocabulary

/-! ## §2 What a vocabulary keeps of a category -/

/-- The entries of the category, the newest first. -/
def entriesOf (vocabulary : Vocabulary) (category : Category) : List (Text × Text) :=
  ((vocabulary.table? category).map PhraseTable.entries).getD []

/-- The values that are declared for the category. -/
def declaredOf (vocabulary : Vocabulary) (category : Category) : List Text :=
  (vocabulary.declared.filter fun entry => decide (entry.1 = category)).flatMap Prod.snd

section
variable (vocabulary : Vocabulary) (category : Category)

theorem lookup_eq (phrase : Text) :
    vocabulary.lookup category phrase = (vocabulary.entriesOf category).lookup phrase := by
  unfold lookup entriesOf
  cases vocabulary.table? category with
  | none => simp
  | some table => rfl

theorem values_eq : vocabulary.values category =
    distinct ((vocabulary.entriesOf category).reverse.map Prod.snd ++
      vocabulary.declaredOf category) := by
  unfold values entriesOf declaredOf
  cases vocabulary.table? category with
  | none => simp
  | some table => simp

end

/-! ## §3 Calls -/

/-- A call that adds to a vocabulary. -/
inductive Call
  | words (category : Category) (phrases : List Text)
  | aliases (category : Category) (pairs : List (Text × Text))
  | declare (category : Category) (values : List Text)

namespace Call

/-- The vocabulary after the call. -/
def apply (vocabulary : Vocabulary) : Call → Vocabulary
  | words category phrases => vocabulary.words category phrases
  | aliases category pairs => vocabulary.aliases category pairs
  | declare category values => vocabulary.declare category values

/-- The category that the call is for. -/
def category : Call → Category
  | words category _ => category
  | aliases category _ => category
  | declare category _ => category

/-- The phrases that the call gives, with their canonical texts. -/
def pairs : Call → List (Text × Text)
  | words _ phrases => phrases.map fun phrase => (phrase, phrase)
  | aliases _ pairs => pairs
  | declare _ _ => []

/-- The values that the call declares. -/
def values : Call → List Text
  | declare _ values => values
  | _ => []

end Call

/-- The vocabulary that several calls make. -/
def ofCalls (calls : List Call) : Vocabulary := calls.foldl Call.apply .empty

/-- The pairs that were given for a category, in the order of the calls. -/
def pairsFor (category : Category) (calls : List Call) : List (Text × Text) :=
  (calls.filter fun call => decide (call.category = category)).flatMap Call.pairs

/-- The values that were declared for a category, in the order of the calls. -/
def valuesFor (category : Category) (calls : List Call) : List Text :=
  (calls.filter fun call => decide (call.category = category)).flatMap Call.values

/-- A pair as an entry. -/
def entryOf (pair : Text × Text) : Text × Text := (Text.normalize pair.1, Text.normalize pair.2)

/-! ## §4 What a call adds -/

theorem entries_extend (pairs : List (Text × Text)) (table : PhraseTable) :
    (table.extend pairs).entries = (pairs.map entryOf).reverse ++ table.entries := by
  unfold PhraseTable.extend
  exact List.foldl_flip_cons_eq_append

section
variable (vocabulary : Vocabulary) (category other : Category)

theorem table?_eq_none_iff : vocabulary.table? category = none ↔
    category ∉ vocabulary.tables.map PhraseTable.category := by
  simp [table?]

/-- Adding phrases extends the table of their category, or starts one, and leaves every other. -/
theorem table?_aliases (pairs : List (Text × Text)) :
    (vocabulary.aliases category pairs).table? other =
      if category = other then
        some (((vocabulary.table? category).getD ⟨category, []⟩).extend pairs)
      else vocabulary.table? other := by
  unfold aliases
  split
  · next started =>
    obtain ⟨table, known⟩ := Option.isSome_iff_exists.1 started
    -- Extending a table keeps its category, so the same table is found.
    have keeps : ∀ t : PhraseTable,
        (if t.category = category then t.extend pairs else t).category = t.category := by
      intro t
      split <;> rfl
    have found : ∀ tables : List PhraseTable,
        (tables.map fun t => if t.category = category then t.extend pairs else t).find?
            (fun t => decide (t.category = other)) =
          (tables.find? fun t => decide (t.category = other)).map
            fun t => if t.category = category then t.extend pairs else t := by
      intro tables
      rw [List.find?_map]
      simp only [Function.comp_def, keeps]
    rw [table?, found, ← table?]
    split
    · next same =>
      subst same
      rw [known, Option.map_some, Option.getD_some, if_pos (mem_tables_of_table? known).2]
    · next differ =>
      cases own : vocabulary.table? other with
      | none => rfl
      | some t =>
        have elsewhere : t.category ≠ category := fun same =>
          differ (same.symm.trans (mem_tables_of_table? own).2)
        rw [Option.map_some, if_neg elsewhere]
  · next absent =>
    have missing : vocabulary.table? category = none := by simpa using absent
    rw [table?, List.find?_append, ← table?]
    split
    · next same =>
      subst same
      simp [missing, PhraseTable.extend]
    · next differ => simp [PhraseTable.extend, differ]

theorem entriesOf_aliases (pairs : List (Text × Text)) :
    (vocabulary.aliases category pairs).entriesOf other =
      (if category = other then (pairs.map entryOf).reverse else []) ++
        vocabulary.entriesOf other := by
  rw [entriesOf, table?_aliases]
  split
  · next same =>
    subst same
    rw [Option.map_some, Option.getD_some, entries_extend, entriesOf]
    cases vocabulary.table? category <;> rfl
  · rfl

/-- Only a category without a table gets a new one. -/
theorem map_category_aliases (pairs : List (Text × Text)) :
    (vocabulary.aliases category pairs).tables.map PhraseTable.category =
      vocabulary.tables.map PhraseTable.category ++
        if (vocabulary.table? category).isSome then [] else [category] := by
  unfold aliases
  split
  · rw [List.map_map, List.append_nil]
    refine List.map_congr_left fun table _ => ?_
    show (if table.category = category then table.extend pairs else table).category =
      table.category
    split <;> rfl
  · rw [List.map_append]
    rfl

theorem has_categories_iff : vocabulary.categories.has category = true ↔
    category ∈ vocabulary.tables.map PhraseTable.category ∨
      category ∈ vocabulary.declared.map Prod.fst := by
  rw [categories, CategorySet.has_ofList_iff, List.mem_append]

theorem has_categories_aliases (pairs : List (Text × Text)) :
    (vocabulary.aliases category pairs).categories.has other = true ↔
      vocabulary.categories.has other = true ∨ category = other := by
  have declared : (vocabulary.aliases category pairs).declared = vocabulary.declared := rfl
  rw [has_categories_iff, has_categories_iff, map_category_aliases, declared, List.mem_append]
  cases known : vocabulary.table? category with
  | none => simp [eq_comm, or_right_comm]
  | some table =>
    have listed : category ∈ vocabulary.tables.map PhraseTable.category := by
      by_contra absent
      rw [(vocabulary.table?_eq_none_iff category).2 absent] at known
      simp at known
    constructor
    · rintro ((old | new) | old)
      · exact .inl (.inl old)
      · simp at new
      · exact .inl (.inr old)
    · rintro ((old | old) | rfl)
      · exact .inl (.inl old)
      · exact .inr old
      · exact .inl (.inl listed)

theorem has_categories_declare (values : List Text) :
    (vocabulary.declare category values).categories.has other = true ↔
      vocabulary.categories.has other = true ∨ category = other := by
  rw [has_categories_iff, has_categories_iff, declare]
  simp [eq_comm, or_assoc]

end

section
variable (vocabulary : Vocabulary) (call : Call) (other : Category)

/-- A call adds its pairs to the entries of its category, the last one in front. -/
theorem entriesOf_apply : (call.apply vocabulary).entriesOf other =
    (if call.category = other then (call.pairs.map entryOf).reverse else []) ++
      vocabulary.entriesOf other := by
  cases call with
  | words category phrases => exact vocabulary.entriesOf_aliases category other _
  | aliases category pairs => exact vocabulary.entriesOf_aliases category other pairs
  | declare category values =>
    show vocabulary.entriesOf other = _
    simp [Call.pairs]

/-- A call adds its values to those declared for its category, at the end. -/
theorem declaredOf_apply : (call.apply vocabulary).declaredOf other =
    vocabulary.declaredOf other ++
      if call.category = other then call.values.map Text.normalize else [] := by
  cases call with
  | words category phrases =>
    show vocabulary.declaredOf other = _
    simp [Call.values]
  | aliases category pairs =>
    show vocabulary.declaredOf other = _
    simp [Call.values]
  | declare category values =>
    unfold Call.apply declare declaredOf
    by_cases same : category = other
    · simp [same, Call.category, Call.values]
    · simp [same, Call.category]

theorem has_categories_apply : (call.apply vocabulary).categories.has other = true ↔
    vocabulary.categories.has other = true ∨ call.category = other := by
  cases call with
  | words category phrases => exact vocabulary.has_categories_aliases category other _
  | aliases category pairs => exact vocabulary.has_categories_aliases category other pairs
  | declare category values => exact vocabulary.has_categories_declare category other values

/-- No call makes a second table for a category. -/
theorem nodup_categories_apply (h : (vocabulary.tables.map PhraseTable.category).Nodup) :
    ((call.apply vocabulary).tables.map PhraseTable.category).Nodup := by
  have added : ∀ category pairs,
      ((vocabulary.aliases category pairs).tables.map PhraseTable.category).Nodup := by
    intro category pairs
    rw [map_category_aliases]
    split
    · simpa using h
    · next absent =>
      have missing : category ∉ vocabulary.tables.map PhraseTable.category :=
        (vocabulary.table?_eq_none_iff category).1 (by simpa using absent)
      rw [List.nodup_append]
      refine ⟨h, by simp, fun c old d new => ?_⟩
      rw [List.mem_singleton.1 new]
      exact fun same => missing (same ▸ old)
  cases call with
  | words category phrases => exact added category _
  | aliases category pairs => exact added category pairs
  | declare category values => exact h

end

/-! ## §5 The record of calls -/

/-- Does the vocabulary keep just what the calls gave? -/
structure RecordsCalls (calls : List Call) (vocabulary : Vocabulary) : Prop where
  oneTable : (vocabulary.tables.map PhraseTable.category).Nodup
  entries : ∀ category, vocabulary.entriesOf category =
    ((pairsFor category calls).map entryOf).reverse
  declared : ∀ category, vocabulary.declaredOf category =
    (valuesFor category calls).map Text.normalize
  mentioned : ∀ category, vocabulary.categories.has category = true ↔
    ∃ call ∈ calls, call.category = category

theorem pairsFor_concat (category : Category) (calls : List Call) (call : Call) :
    pairsFor category (calls ++ [call]) =
      pairsFor category calls ++ if call.category = category then call.pairs else [] := by
  by_cases own : call.category = category <;> simp [pairsFor, own]

theorem valuesFor_concat (category : Category) (calls : List Call) (call : Call) :
    valuesFor category (calls ++ [call]) =
      valuesFor category calls ++ if call.category = category then call.values else [] := by
  by_cases own : call.category = category <;> simp [valuesFor, own]

/-- One more call is one more entry in the record. -/
theorem RecordsCalls.apply {calls : List Call} {vocabulary : Vocabulary}
    (h : RecordsCalls calls vocabulary) (call : Call) :
    RecordsCalls (calls ++ [call]) (call.apply vocabulary) where
  oneTable := nodup_categories_apply vocabulary call h.oneTable
  entries category := by
    rw [entriesOf_apply, h.entries, pairsFor_concat, List.map_append, List.reverse_append]
    split <;> rfl
  declared category := by
    rw [declaredOf_apply, h.declared, valuesFor_concat, List.map_append]
    split <;> rfl
  mentioned category := by
    rw [has_categories_apply, h.mentioned]
    simp [or_and_right, exists_or]

theorem recordsCalls_ofCalls (calls : List Call) : RecordsCalls calls (ofCalls calls) := by
  induction calls using List.reverseRecOn with
  | nil =>
    refine ⟨List.nodup_nil, fun _ => rfl, fun _ => rfl, fun category => ?_⟩
    simp [has_categories_iff, ofCalls, empty]
  | append_singleton calls call ih =>
    have last : ofCalls (calls ++ [call]) = call.apply (ofCalls calls) := by
      unfold ofCalls
      rw [List.foldl_append, List.foldl_cons, List.foldl_nil]
    rw [last]
    exact ih.apply call

/-! ## §6 Answers -/

/-- The last pair whose phrase has this normal form has this canonical text. -/
def LastGiven (pairs : List (Text × Text)) (phrase text : Text) : Prop :=
  ∃ before pair after, pairs = before ++ pair :: after ∧ Text.normalize pair.1 = phrase ∧
    Text.normalize pair.2 = text ∧ ∀ later ∈ after, Text.normalize later.1 ≠ phrase

section
variable {calls : List Call} {vocabulary : Vocabulary} (h : RecordsCalls calls vocabulary)
include h

/-- A look-up gives what was given last. -/
theorem RecordsCalls.lookup_eq_some_iff (category : Category) (phrase text : Text) :
    vocabulary.lookup category phrase = some text ↔
      LastGiven (pairsFor category calls) phrase text := by
  rw [lookup_eq, h.entries, List.lookup_eq_some_iff]
  constructor
  · rintro ⟨newer, older, split, others⟩
    rw [List.reverse_eq_iff, List.reverse_append, List.reverse_cons, List.append_assoc,
        List.singleton_append, List.map_eq_append_iff] at split
    obtain ⟨before, rest, cut, -, behind⟩ := split
    obtain ⟨pair, after, rfl, own, later⟩ := List.map_eq_cons_iff.1 behind
    obtain ⟨phrase, text⟩ := Prod.mk.inj own
    refine ⟨before, pair, after, cut, phrase, text, fun given member => ?_⟩
    have listed : entryOf given ∈ newer := by
      rw [← List.mem_reverse, ← later]
      exact List.mem_map_of_mem member
    have differs := others (entryOf given) listed
    exact fun same => bne_iff_ne.1 differs same.symm
  · rintro ⟨before, pair, after, cut, rfl, rfl, others⟩
    refine ⟨(after.map entryOf).reverse, (before.map entryOf).reverse, ?_, ?_⟩
    · rw [cut]
      simp [entryOf]
    · intro entry member
      obtain ⟨given, listed, rfl⟩ := List.mem_map.1 (List.mem_reverse.1 member)
      exact bne_iff_ne.2 fun same => others given listed same.symm

theorem RecordsCalls.lookup_eq_none_iff (category : Category) (phrase : Text) :
    vocabulary.lookup category phrase = none ↔
      ∀ pair ∈ pairsFor category calls, Text.normalize pair.1 ≠ phrase := by
  rw [lookup_eq, h.entries, List.lookup_eq_none_iff]
  simp only [List.mem_reverse, List.forall_mem_map, entryOf, bne_iff_ne, ne_comm]

/-- The values are the first occurrences of the canonical texts, and then of the declared values
that are none of them. -/
theorem RecordsCalls.values_eq (category : Category) : vocabulary.values category =
    ((pairsFor category calls).map fun pair => Text.normalize pair.2).eraseDups ++
      (((valuesFor category calls).map Text.normalize).removeAll
        ((pairsFor category calls).map fun pair => Text.normalize pair.2)).eraseDups := by
  have canonical : ((pairsFor category calls).map entryOf).map Prod.snd =
      (pairsFor category calls).map fun pair => Text.normalize pair.2 := List.map_map
  rw [Vocabulary.values_eq, h.entries, h.declared, List.reverse_reverse, canonical,
      distinct_eq_eraseDups, List.eraseDups_append]

end

/-- **A vocabulary is what its calls say**, in whatever order they come. There is one table at most
for a category. A look-up gives the canonical text of the last pair whose phrase has the normal form
that is looked up, and nothing where no pair has it. The values of a category are without repeats:
its canonical texts in the order in which they first came, and behind them the declared values that
are none of these; every look-up gives one of them. And the categories of the vocabulary are those
that calls were for. -/
theorem answers_ofCalls (calls : List Call) :
    let vocabulary := ofCalls calls
    (vocabulary.tables.map PhraseTable.category).Nodup ∧
    (∀ category phrase,
      (∀ text, vocabulary.lookup category phrase = some text ↔
        LastGiven (pairsFor category calls) phrase text) ∧
      (vocabulary.lookup category phrase = none ↔
        ∀ pair ∈ pairsFor category calls, Text.normalize pair.1 ≠ phrase)) ∧
    (∀ category, (vocabulary.values category).Nodup ∧
      let canonical := (pairsFor category calls).map fun pair => Text.normalize pair.2
      vocabulary.values category = canonical.eraseDups ++
        (((valuesFor category calls).map Text.normalize).removeAll canonical).eraseDups) ∧
    (∀ category phrase text, vocabulary.lookup category phrase = some text →
      text ∈ vocabulary.values category) ∧
    ∀ category, vocabulary.categories.has category = true ↔
      ∃ call ∈ calls, call.category = category := by
  intro vocabulary
  have record : RecordsCalls calls vocabulary := recordsCalls_ofCalls calls
  refine ⟨record.oneTable, fun category phrase => ?_, fun category => ?_,
    fun category phrase text => mem_values_of_lookup, record.mentioned⟩
  · exact ⟨record.lookup_eq_some_iff category phrase, record.lookup_eq_none_iff category phrase⟩
  · exact ⟨nodup_distinct _, record.values_eq category⟩

/-- A phrase that is given again changes its text, but what it stood for stays a value. -/
example :
    let vocabulary := ofCalls [.aliases .effect [("Deal", "deal damage")],
      .declare .effect ["X", "deal"], .words .effect ["deal"]]
    vocabulary.lookup .effect "deal" = some "deal" ∧
      vocabulary.values .effect = [("deal damage" : Text), ("deal" : Text), ("x" : Text)] := by
  decide

end Vocabulary

end AbilityText

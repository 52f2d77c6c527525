/-
AbilityText.Proofs.Record.Unquoted — rows whose chains were stored without quotes.

Where there is no quotation mark and no line end, the pieces of a row between its commas are its
fields (`Csv.isRow_splitOn`). Chains that stand behind a text and a comma without quotes so fill one
column for each piece of their field between commas, and joining these columns gives the field back,
whatever the pieces are (`ofRow_of_unquoted`). A written field never has a line end in it, and a
quotation mark only where a text of a component has one (`unquoted_encodeChains`). That is all it
takes for quotes around the field to make no difference.
-/
import AbilityText.Proofs.Record.Grammar
import AbilityText.Proofs.Record.Row

namespace AbilityText

/-! ## §1 Columns joined again -/

/-- No quotation mark and no line end stands in the text. -/
def Csv.Unquoted (t : Text) : Prop := ∀ c ∈ t, c ≠ quote ∧ isLineEnd c = false

namespace Record

/-- **Chains that were stored without quotes are read from the field that they were**, over however
many columns it spills. -/
theorem ofRow_of_unquoted {csv : Csv.Library} (reads : csv.ReadsRows) {text field : Text}
    (plain : ∀ c ∈ text, Csv.needsQuotes c = false) (bare : text.head? ≠ some '\uFEFF')
    (unquoted : Csv.Unquoted field) :
    ofRow csv (text ++ ',' :: field) =
      (ChainField.decodeChains field).map fun chains => ⟨text, chains⟩ := by
  have noComma : ',' ∉ text := by
    intro comma
    exact (Csv.needsQuotes_eq_false_iff.1 (plain ',' comma)).1 rfl
  have row : Csv.Unquoted (text ++ ',' :: field) := by
    intro c member
    rcases List.mem_append.1 member with inText | behind
    · exact (Csv.needsQuotes_eq_false_iff.1 (plain c inText)).2
    · rcases List.mem_cons.1 behind with rfl | inField
      · decide
      · exact unquoted c inField
  have first : (text ++ ',' :: field).head? ≠ some '\uFEFF' := by
    cases text with
    | nil => simp
    | cons c rest => simpa using bare
  obtain ⟨column, more, cut⟩ := List.exists_cons_of_ne_nil (List.splitOn_ne_nil ',' field)
  have columns : csv.firstRecord? (text ++ ',' :: field) = some (.ok (text :: column :: more)) := by
    rw [reads _ _ (Csv.isRow_splitOn row) (by simp) first,
        List.splitOn_append_cons_self_of_not_mem noComma, cut]
  rw [ofRow_of_firstRecord? columns, ← cut, List.intercalate_splitOn]

end Record

/-! ## §2 Written fields -/

namespace ChainField

theorem isSpace_of_isLineEnd {c : Char} (h : Csv.isLineEnd c = true) : Text.isSpace c = true := by
  simp only [Csv.isLineEnd, Bool.or_eq_true, decide_eq_true_eq] at h
  rcases h with rfl | rfl <;> decide

theorem quote_not_mem_toTag (category : Category) : Csv.quote ∉ category.toTag := by
  intro mark
  rcases Category.isUpper_of_mem_toTag category Csv.quote mark with upper | underscore
  · exact absurd upper (by decide)
  · exact absurd underscore (by decide)

theorem unquoted_encodeComponent {c : Component} (h : Csv.quote ∉ c.text) :
    Csv.Unquoted (encodeComponent c) := by
  have solid : ∀ {x : Char}, Text.isSpace x = false → Csv.isLineEnd x = false := fun solid =>
    Bool.eq_false_iff.2 fun lineEnd => by simp [isSpace_of_isLineEnd lineEnd] at solid
  intro x member
  rcases List.mem_append.1 member with written | behind
  · rcases mem_withoutSeparators written with rfl | ⟨inText, noSpace, -⟩
    · decide
    · exact ⟨fun mark => h (mark ▸ inText), solid noSpace⟩
  · rcases List.mem_cons.1 behind with rfl | inTag
    · decide
    · exact ⟨fun mark => quote_not_mem_toTag c.category (mark ▸ inTag),
        solid (mem_toTag c.category x inTag).1⟩

/-- **A written field has no line end, and a quotation mark only where a text has one.** -/
theorem unquoted_encodeChains {cs : List Chain}
    (h : ∀ chain ∈ cs, ∀ c ∈ chain.components, Csv.quote ∉ c.text) :
    Csv.Unquoted (encodeChains cs) := by
  intro x member
  rcases Text.mem_intercalate member with rfl | ⟨segment, written, inSegment⟩
  · decide
  · obtain ⟨chain, listed, rfl⟩ := List.mem_map.1 written
    rcases Text.mem_intercalate inSegment with rfl | ⟨item, writtenItem, inItem⟩
    · decide
    · obtain ⟨c, inChain, rfl⟩ := List.mem_map.1 writtenItem
      exact unquoted_encodeComponent (h chain listed c inChain) x inItem

end ChainField

/-! ## §3 Rows with and without quotes -/

namespace Record

/-- **Quotes around the chains make no difference where no text has a quotation mark.** The text of
the record must be one that is written without quotes, and no byte order mark may open it. Then,
with a library that has the defaults, the row that joins it to the written chains by a comma gives
what the row of the record gives: the text with the chains of their field, or the error of that
field. -/
theorem ofRow_unquoted_eq_ofRow_toRow (csv : Csv.Library) (writes : csv.WritesLines)
    (reads : csv.ReadsRows) (record : Record)
    (plain : ∀ c ∈ record.text, c ≠ ',' ∧ c ≠ Csv.quote ∧ c ≠ '\r' ∧ c ≠ '\n')
    (bare : record.text.head? ≠ some '\uFEFF')
    (unmarked : ∀ chain ∈ record.chains, ∀ c ∈ chain.components, Csv.quote ∉ c.text) :
    ∃ row, record.toRow csv = .ok row ∧
      ofRow csv (record.text ++ ',' :: ChainField.encodeChains record.chains) = ofRow csv row ∧
      ofRow csv row = (ChainField.decodeChains (ChainField.encodeChains record.chains)).map
        fun chains => ⟨record.text, chains⟩ := by
  have noQuotes : ∀ c ∈ record.text, Csv.needsQuotes c = false := by
    intro c member
    obtain ⟨comma, mark, carriageReturn, lineFeed⟩ := plain c member
    have lineEnd : Csv.isLineEnd c = false := by simp [Csv.isLineEnd, carriageReturn, lineFeed]
    exact Csv.needsQuotes_eq_false_iff.2 ⟨comma, mark, lineEnd⟩
  have quoted := ofRow_of_firstRecord? (Csv.firstRecord?_encode_of_not_opens record.text
    (ChainField.encodeChains record.chains) [] reads fun opens => bare opens.1)
  rw [List.intercalate_singleton] at quoted
  have unquoted :=
    ofRow_of_unquoted reads noQuotes bare (ChainField.unquoted_encodeChains unmarked)
  exact ⟨record.row, toRow_eq_ok writes record, unquoted.trans quoted.symm, quoted⟩

/-- A text with a colon, and three chains of which one is empty. -/
def spilledRecord : Record :=
  ⟨"Tap: add two", [.ofList [ChainField.colonCost, ChainField.barredCondition], .empty,
    .ofList [ChainField.colonCost]]⟩

/-- Its chains spill over two columns, with and without quotes around them. -/
theorem ofRow_unquoted_eq_ofRow_toRow_spilled :
    spilledRecord.text ++ ',' :: ChainField.encodeChains spilledRecord.chains =
        ("Tap: add two,tap: add:COST,a beast or a mech:CONDITION||tap: add:COST" : Text) ∧
    spilledRecord.toRow Csv.standard = .ok
        ("Tap: add two,\x22tap: add:COST,a beast or a mech:CONDITION||tap: add:COST\x22" : Text) ∧
    ∃ row, spilledRecord.toRow Csv.standard = .ok row ∧
      ofRow Csv.standard
          (spilledRecord.text ++ ',' :: ChainField.encodeChains spilledRecord.chains) =
        ofRow Csv.standard row ∧
      ofRow Csv.standard row =
        (ChainField.decodeChains (ChainField.encodeChains spilledRecord.chains)).map
          fun chains => ⟨spilledRecord.text, chains⟩ := by
  have plain : ∀ c ∈ spilledRecord.text, c ≠ ',' ∧ c ≠ Csv.quote ∧ c ≠ '\r' ∧ c ≠ '\n' := by
    have all : spilledRecord.text.all
        (fun c => c != ',' && c != Csv.quote && c != '\r' && c != '\n') = true := by decide
    intro c member
    simpa [and_assoc] using List.all_eq_true.1 all c member
  have unmarked : ∀ chain ∈ spilledRecord.chains, ∀ c ∈ chain.components,
      Csv.quote ∉ c.text := by
    have all : spilledRecord.chains.all (fun chain => chain.components.all fun c =>
        !c.text.contains Csv.quote) = true := by decide
    intro chain listed c inChain
    have own := List.all_eq_true.1 (List.all_eq_true.1 all chain listed) c inChain
    simpa using own
  have written : spilledRecord.row =
      ("Tap: add two,\x22tap: add:COST,a beast or a mech:CONDITION||tap: add:COST\x22" : Text) := by
    decide
  refine ⟨by decide, written ▸ toRow_eq_ok Csv.writesLines_standard spilledRecord, ?_⟩
  exact ofRow_unquoted_eq_ofRow_toRow Csv.standard Csv.writesLines_standard
    Csv.readsRows_standard spilledRecord plain (by decide) unmarked

end Record

end AbilityText

/-
AbilityText.Proofs.Record.Row — which records are read back from their rows.

Rows are written and read by a library for comma-separated values, of which only its defaults are
used. With these, writing a row succeeds (`toRow_eq_ok`), and reading it is reading its chains back
from their field, beside a text that a byte order mark may be missing from (`ofRow_row`). The chains
come back the same when none is empty and no separator stands in a text, and only then
(`exists_decodeChains_same_iff`). With that, `ofRow_toRow_same_iff` says exactly which records come
back the same.
-/
import AbilityText.Proofs.Record.Csv
import AbilityText.Proofs.Record.DecodedChains
import AbilityText.Record

namespace AbilityText

/-! ## §1 Chains that come back the same -/

namespace ChainField

/-- The chains of a field are consistent, and no separator stands in their texts. -/
theorem isPlain_of_decodeChains {field : Text} {cs : List Chain} (h : decodeChains field = .ok cs) :
    ∀ chain ∈ cs, chain.Consistent ∧ IsPlain chain := by
  intro chain hchain
  obtain ⟨segment, hsegment, read⟩ := exists_of_mem_of_mapM_eq_ok h hchain
  obtain ⟨ds, -, rfl, plain⟩ := decodeChain_eq_ok read (bar_not_mem_segment hsegment)
  exact ⟨(Chain.built_ofList ds).consistent, plain⟩

/-- As many chains come back as were not empty. -/
theorem length_decodeChains_encodeChains {cs back : List Chain}
    (h : decodeChains (encodeChains cs) = .ok back) :
    back.length = (cs.filter fun chain => !chain.isEmpty).length := by
  rw [decodeChains_eq_mapM_reread] at h
  exact (forall₂_of_mapM_eq_ok h).length_eq.symm

theorem same_withoutScalars {chain : Chain} (h : chain.Consistent) :
    chain.withoutScalars.same chain = true := by
  have scalars : chain.withoutScalars.Consistent := ⟨h.nodup, h.has_present, List.Pairwise.nil⟩
  exact (Chain.same_iff scalars h).2 fun c => Iff.rfl

/-- **Which chains come back the same from a field**: those of a list without empty chains, and
without separators in the texts. -/
theorem exists_decodeChains_same_iff {cs : List Chain} (built : ∀ chain ∈ cs, chain.Built) :
    (∃ back, decodeChains (encodeChains cs) = .ok back ∧
        List.Forall₂ (fun b chain => b.same chain = true) back cs) ↔
      (∀ chain ∈ cs, chain.isEmpty = false) ∧ ∀ chain ∈ cs, IsPlain chain := by
  constructor
  · rintro ⟨back, read, same⟩
    have size : (cs.filter fun chain => !chain.isEmpty).length = cs.length :=
      (length_decodeChains_encodeChains read).symm.trans same.length_eq
    have filled : ∀ chain ∈ cs, chain.isEmpty = false := by
      simpa using List.length_filter_eq_length_iff.1 size
    refine ⟨filled, ?_⟩
    have plain := isPlain_of_decodeChains read
    clear read size filled
    induction same with
    | nil => simp
    | @cons b chain back cs first _ ih =>
      rw [List.forall_mem_cons] at built plain ⊢
      have members := (Chain.same_iff plain.1.1 built.1.consistent).1 first
      exact ⟨fun c hc => plain.1.2 c ((members c).2 hc), ih built.2 plain.2⟩
  · rintro ⟨filled, plain⟩
    refine ⟨cs.map Chain.withoutScalars,
      decodeChains_of_plain built fun chain hchain => ⟨filled chain hchain, plain chain hchain⟩, ?_⟩
    rw [List.forall₂_map_left_iff, List.forall₂_same]
    exact fun chain hchain => same_withoutScalars (built chain hchain).consistent

end ChainField

/-! ## §2 Records that come back the same -/

namespace Record

theorem same_iff {a b : Record} : a.same b = true ↔
    a.text = b.text ∧ List.Forall₂ (fun x y => x.same y = true) a.chains b.chains := by
  rw [same, Bool.and_eq_true, Bool.and_eq_true, decide_eq_true_eq, beq_iff_eq, List.all_eq_true,
      and_assoc, List.forall₂_iff_zip]
  simp

/-- The row of a record as it is written: the text and the chains, each in quotes where it needs
them. -/
def row (record : Record) : Text :=
  Csv.encode [record.text, ChainField.encodeChains record.chains]

section
variable {csv : Csv.Library}

/-- **Writing a row succeeds.** -/
theorem toRow_eq_ok (writes : csv.WritesLines) (record : Record) :
    record.toRow csv = .ok record.row := by
  obtain ⟨written, wrote, bytes⟩ :=
    writes record.text (ChainField.encodeChains record.chains) []
  simp only [toRow, wrote, bytes, Except.mapError, bind, Except.bind, Utf8.decode_encode, pure,
    Except.pure]
  rw [Csv.trimEndOf_encodeLine, row]

/-- Reading a row is reading the chains of the columns behind the first one. -/
theorem ofRow_of_firstRecord? {row text column : Text} {more : List Text}
    (read : csv.firstRecord? row = some (.ok (text :: column :: more))) :
    ofRow csv row = (ChainField.decodeChains ([','].intercalate (column :: more))).map
      fun chains => ⟨text, chains⟩ := by
  rw [ofRow, read]
  dsimp only
  cases ChainField.decodeChains ([','].intercalate (column :: more)) <;> rfl

variable (reads : csv.ReadsRows) (skips : csv.SkipsMark)
include reads skips

/-- Reading the row of a record reads its chains back from their field. -/
theorem ofRow_row (record : Record) : ofRow csv record.row =
    (ChainField.decodeChains (ChainField.encodeChains record.chains)).map
      fun chains => ⟨Csv.withoutBareMark record.text, chains⟩ := by
  rw [row, ofRow_of_firstRecord? (Csv.firstRecord?_encode _ _ _ reads skips),
    List.intercalate_singleton]

theorem exists_ofRow_row_same_iff (record : Record) :
    (∃ back, ofRow csv record.row = .ok back ∧ back.same record = true) ↔
      (∃ chains, ChainField.decodeChains (ChainField.encodeChains record.chains) = .ok chains ∧
        List.Forall₂ (fun x y => x.same y = true) chains record.chains) ∧
      Csv.withoutBareMark record.text = record.text := by
  rw [ofRow_row reads skips]
  constructor
  · rintro ⟨back, read, same⟩
    obtain ⟨text, chains⟩ := same_iff.1 same
    cases decoded : ChainField.decodeChains (ChainField.encodeChains record.chains) with
    | error e =>
      rw [decoded] at read
      exact absurd read (by simp [Except.map])
    | ok cs =>
      rw [decoded] at read
      obtain rfl : ⟨Csv.withoutBareMark record.text, cs⟩ = back := Except.ok.inj read
      exact ⟨⟨cs, rfl, chains⟩, text⟩
  · rintro ⟨⟨cs, decoded, chains⟩, text⟩
    exact ⟨⟨Csv.withoutBareMark record.text, cs⟩, by rw [decoded]; rfl, same_iff.2 ⟨text, chains⟩⟩

end

/-- **Which records are read back from their rows.** With a library that has the defaults, writing
the row of a record succeeds: it holds the text and the chains, each in quotes where it needs them.
What is read of the row is the same record exactly when no chain is empty, no text of a component
holds a comma or a bar, and the text does not open with a byte order mark that stands there without
quotes. -/
theorem ofRow_toRow_same_iff (csv : Csv.Library) (writes : csv.WritesLines)
    (reads : csv.ReadsRows) (skips : csv.SkipsMark) (record : Record)
    (built : ∀ chain ∈ record.chains, chain.Built) :
    ∃ row, record.toRow csv = .ok row ∧
      row = Csv.encode [record.text, ChainField.encodeChains record.chains] ∧
      ((∃ back, ofRow csv row = .ok back ∧ back.same record = true) ↔
        (∀ chain ∈ record.chains, chain.isEmpty = false) ∧
          (∀ chain ∈ record.chains, ∀ c ∈ chain.components, ',' ∉ c.text ∧ '|' ∉ c.text) ∧
          ¬ Csv.OpensWithBareMark record.text) := by
  refine ⟨record.row, toRow_eq_ok writes record, rfl, ?_⟩
  have plain : (∀ chain ∈ record.chains, ChainField.IsPlain chain) ↔
      ∀ chain ∈ record.chains, ∀ c ∈ chain.components, ',' ∉ c.text ∧ '|' ∉ c.text :=
    forall₂_congr fun chain _ => ChainField.isPlain_iff
  rw [exists_ofRow_row_same_iff reads skips, ChainField.exists_decodeChains_same_iff built, plain,
      Csv.withoutBareMark_eq_self_iff, and_assoc]

/-- A text with a byte order mark, quotation marks, a comma and a line end. -/
def quotedRecord : Record := ⟨"\uFEFFSay \x22hi\x22,\nthen add", [.ofList [ChainField.colonCost]]⟩

/-- A text with a byte order mark that nothing makes a writer quote. -/
def markedRecord : Record := ⟨"\uFEFFadd", [.ofList [ChainField.colonCost]]⟩

/-- The first is read back from its row, the second is not. -/
theorem ofRow_toRow_same_iff_marks :
    (∃ row, quotedRecord.toRow Csv.standard = .ok row ∧
      row = ("\x22\uFEFFSay \x22\x22hi\x22\x22,\nthen add\x22,tap: add:COST" : Text) ∧
      ∃ back, ofRow Csv.standard row = .ok back ∧ back.same quotedRecord = true) ∧
    ∃ row, markedRecord.toRow Csv.standard = .ok row ∧
      row = ("\uFEFFadd,tap: add:COST" : Text) ∧
      ¬ ∃ back, ofRow Csv.standard row = .ok back ∧ back.same markedRecord = true := by
  have built : ∀ chain ∈ [Chain.ofList [ChainField.colonCost]], chain.Built := by
    intro chain member
    rw [List.mem_singleton.1 member]
    exact Chain.built_ofList _
  obtain ⟨row, written, own, same⟩ := ofRow_toRow_same_iff Csv.standard Csv.writesLines_standard
    Csv.readsRows_standard Csv.skipsMark_standard quotedRecord built
  obtain ⟨marked, writtenMarked, ownMarked, sameMarked⟩ := ofRow_toRow_same_iff Csv.standard
    Csv.writesLines_standard Csv.readsRows_standard Csv.skipsMark_standard markedRecord built
  exact ⟨⟨row, written, own.trans (by decide), same.2 (by decide)⟩,
    ⟨marked, writtenMarked, ownMarked.trans (by decide),
      fun back => (sameMarked.1 back).2.2 (by decide)⟩⟩

end Record

end AbilityText

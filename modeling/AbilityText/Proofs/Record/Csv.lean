/-
AbilityText.Proofs.Record.Csv — what a library for comma-separated values does by default, and what
it reads of a row that it wrote.

Three defaults are all that is asked of a library. It writes a record as a line, with quotes where
a field needs them (`WritesLines`). It reads a row of fields, each in quotes or without a character
that needs them, as these fields (`ReadsRows`). And it skips a byte order mark in front of such a
row (`SkipsMark`), which is why a written row is read back as it was with one exception: a mark that
opens the row without quotes is lost (`firstRecord?_encode`).

The standard library has the three (`writesLines_standard`, `readsRows_standard`,
`skipsMark_standard`). What carries this is one lemma on a field (`fieldsFrom_of_standsFor`):
outside quotes a reader goes on in the same way wherever a field can end.
-/
import Mathlib.Data.List.Forall2
import AbilityText.Proofs.Text.Words
import AbilityText.Record.Csv

namespace AbilityText.Csv

/-! ## §1 Rows -/

/-- How a field stands in a row: as it is, when nothing in it needs quotes, or in quotes, with every
quotation mark of the field written twice. -/
inductive StandsFor : Text → Text → Prop
  | plain {field : Text} : (∀ c ∈ field, needsQuotes c = false) → StandsFor field field
  | quoted (field : Text) : StandsFor (quote :: doubleQuotes field ++ [quote]) field

/-- The row holds these fields, one behind the other with a comma between them. -/
def IsRow (row : Text) (fields : List Text) : Prop :=
  ∃ written, row = [','].intercalate written ∧ List.Forall₂ StandsFor written fields

theorem needsQuotes_eq_false_iff {c : Char} :
    needsQuotes c = false ↔ c ≠ ',' ∧ c ≠ quote ∧ isLineEnd c = false := by
  simp [needsQuotes, and_assoc]

theorem standsFor_encodeField (t : Text) : StandsFor (encodeField t) t := by
  unfold encodeField
  split
  · exact .quoted t
  · next plain => exact .plain (by simpa using plain)

theorem encode_cons_cons (t u : Text) (more : List Text) :
    encode (t :: u :: more) = [','].intercalate ((t :: u :: more).map encodeField) := by
  cases t <;> rfl

/-- What is written of several fields is a row of them. -/
theorem isRow_encode (t u : Text) (more : List Text) :
    IsRow (encode (t :: u :: more)) (t :: u :: more) := by
  refine ⟨(t :: u :: more).map encodeField, encode_cons_cons t u more, ?_⟩
  rw [List.forall₂_map_left_iff, List.forall₂_same]
  exact fun field _ => standsFor_encodeField field

/-- The pieces of a row at its commas are fields where no quotation mark and no line end stands. -/
theorem isRow_splitOn {row : Text} (h : ∀ c ∈ row, c ≠ quote ∧ isLineEnd c = false) :
    IsRow row (row.splitOn ',') := by
  refine ⟨row.splitOn ',', (List.intercalate_splitOn ',').symm, ?_⟩
  rw [List.forall₂_same]
  intro piece listed
  refine .plain fun c member => ?_
  obtain ⟨comma, inRow⟩ := Text.mem_splitOnP (p := (· == ',')) listed c member
  exact needsQuotes_eq_false_iff.2 ⟨by simpa using comma, h c inRow⟩

/-! ## §2 The defaults of a library -/

namespace Library

variable (csv : Library)

/-- A record of several fields is written as its line, which a line feed closes: quotes stand around
the fields that need them and no others, and every quotation mark in them is written twice. -/
def WritesLines : Prop :=
  ∀ t u more, ∃ written, csv.writeRecord csv.writer (t :: u :: more) = .ok written ∧
    csv.intoInner written = .ok (Utf8.encode (encodeLine (t :: u :: more)))

/-- A row is read as its fields, unless a byte order mark opens it: a comma ends a field that stands
without quotes, and between quotes everything is kept, a doubled quotation mark as one. -/
def ReadsRows : Prop :=
  ∀ row fields, IsRow row fields → row ≠ [] → row.head? ≠ some '\uFEFF' →
    csv.firstRecord? row = some (.ok fields)

/-- One byte order mark in front of a row is skipped. -/
def SkipsMark : Prop :=
  ∀ row fields, IsRow row fields → row ≠ [] →
    csv.firstRecord? ('\uFEFF' :: row) = some (.ok fields)

end Library

/-! ## §3 Marks in front of a row -/

/-- A byte order mark opens the text, and nothing in the text makes a writer quote it. -/
def OpensWithBareMark (t : Text) : Prop :=
  t.head? = some '\uFEFF' ∧ ∀ c ∈ t, c ≠ ',' ∧ c ≠ quote ∧ c ≠ '\r' ∧ c ≠ '\n'

theorem any_needsQuotes_eq_false_iff {t : Text} : t.any needsQuotes = false ↔
    ∀ c ∈ t, c ≠ ',' ∧ c ≠ quote ∧ c ≠ '\r' ∧ c ≠ '\n' := by
  rw [List.any_eq_false]
  refine forall₂_congr fun c _ => ?_
  rw [Bool.not_eq_true, needsQuotes_eq_false_iff]
  simp [isLineEnd, and_comm]

instance (t : Text) : Decidable (OpensWithBareMark t) :=
  decidable_of_iff (t.head? = some '\uFEFF' ∧ t.any needsQuotes = false)
    (and_congr_right fun _ => any_needsQuotes_eq_false_iff)

/-- The text as a reader takes it from the start of a row. -/
def withoutBareMark (t : Text) : Text := if OpensWithBareMark t then t.tail else t

theorem withoutBareMark_eq_self_iff {t : Text} :
    withoutBareMark t = t ↔ ¬ OpensWithBareMark t := by
  unfold withoutBareMark
  split
  · next opens =>
    obtain ⟨rest, own⟩ := List.head?_eq_some_iff.1 opens.1
    refine iff_of_false (fun same => ?_) (not_not_intro opens)
    rw [own, List.tail_cons] at same
    exact absurd (congrArg List.length same) (by simp)
  · next other => exact iff_of_true rfl other

section
variable {csv : Library} (t u : Text) (more : List Text)

/-- A row of several fields opens with the first of them. -/
theorem exists_encode_eq_append :
    ∃ rest, encode (t :: u :: more) = encodeField t ++ ',' :: rest := by
  simp [encode_cons_cons, List.intercalate_cons_cons]

theorem encode_ne_nil : encode (t :: u :: more) ≠ [] := by
  obtain ⟨rest, split⟩ := exists_encode_eq_append t u more
  simp [split]

/-- Every field of a written row is read as it was, unless a bare mark opens the row. -/
theorem firstRecord?_encode_of_not_opens (reads : csv.ReadsRows) (other : ¬OpensWithBareMark t) :
    csv.firstRecord? (encode (t :: u :: more)) = some (.ok (t :: u :: more)) := by
  refine reads _ _ (isRow_encode t u more) (encode_ne_nil t u more) fun mark => ?_
  obtain ⟨rest, split⟩ := exists_encode_eq_append t u more
  rw [split, encodeField] at mark
  split at mark
  · simp only [List.cons_append, List.head?_cons] at mark
    exact absurd mark (by decide)
  · next plain =>
    refine other ⟨?_, any_needsQuotes_eq_false_iff.1 (by simpa using plain)⟩
    cases t with
    | nil => exact absurd mark (by simp)
    | cons c t => exact mark

/-- A bare mark stands in front of the row of the other fields and of what is left of the first. -/
theorem encode_of_opens (opens : OpensWithBareMark t) :
    encode (t :: u :: more) = '\uFEFF' :: encode (t.tail :: u :: more) := by
  obtain ⟨mark, plain⟩ := opens
  obtain ⟨rest, rfl⟩ := List.head?_eq_some_iff.1 mark
  have own : encodeField ('\uFEFF' :: rest) = '\uFEFF' :: rest :=
    if_neg (by simp [any_needsQuotes_eq_false_iff.2 plain])
  have later : encodeField rest = rest := by
    refine if_neg ?_
    rw [Bool.not_eq_true, any_needsQuotes_eq_false_iff]
    exact fun c member => plain c (List.mem_cons_of_mem _ member)
  simp [encode_cons_cons, List.intercalate_cons_cons, own, later]

/-- **What a library reads of a row that it wrote**: every field as it was, the first without a mark
that opens the row. -/
theorem firstRecord?_encode (reads : csv.ReadsRows) (skips : csv.SkipsMark) :
    csv.firstRecord? (encode (t :: u :: more)) = some (.ok (withoutBareMark t :: u :: more)) := by
  unfold withoutBareMark
  split
  · next opens =>
    rw [encode_of_opens t u more opens]
    exact skips _ _ (isRow_encode t.tail u more) (encode_ne_nil t.tail u more)
  · next other => exact firstRecord?_encode_of_not_opens t u more reads other

end

/-! ## §4 The standard library

A reader that stands outside quotes goes on in the same way wherever a field can end, so the state
in which it comes to that place does not matter. -/

theorem skipMark_of_head? {t : Text} (h : t.head? ≠ some '\uFEFF') : skipMark t = t := by
  cases t with
  | nil => rfl
  | cons c rest => rw [skipMark, if_neg fun mark => h (by rw [mark]; rfl)]

/-- What may follow a field: nothing, or a comma. -/
def EndsField (t : Text) : Prop := ∀ c ∈ t.head?, c = ','

theorem fieldsFrom_comma {state : State} (outside : state ≠ .quoted) (rest : Text) :
    fieldsFrom state (',' :: rest) = [] :: fieldsFrom .start rest := by
  cases state with
  | quoted => exact absurd rfl outside
  | _ => rfl

theorem fieldsFrom_of_endsField {state : State} (outside : state ≠ .quoted) {t : Text}
    (h : EndsField t) : fieldsFrom state t = fieldsFrom .plain t := by
  cases t with
  | nil => simp [fieldsFrom]
  | cons c rest =>
    obtain rfl : c = ',' := h c rfl
    rw [fieldsFrom_comma outside, fieldsFrom_comma (by decide)]

/-- A character that needs no quotes belongs to the field, also where it opens it. -/
theorem fieldsFrom_cons {state : State} (outside : state ≠ .quoted) {c : Char}
    (h : needsQuotes c = false) (rest : Text) :
    fieldsFrom state (c :: rest) = (fieldsFrom .plain rest).modifyHead (c :: ·) := by
  obtain ⟨comma, mark, lineEnd⟩ := needsQuotes_eq_false_iff.1 h
  cases state with
  | quoted => exact absurd rfl outside
  | _ => simp [fieldsFrom, comma, mark, lineEnd]

theorem fieldsFrom_plain_append {t : Text} (h : ∀ c ∈ t, needsQuotes c = false) (rest : Text) :
    fieldsFrom .plain (t ++ rest) = (fieldsFrom .plain rest).modifyHead (t ++ ·) := by
  induction t with
  | nil => exact (congrFun List.modifyHead_id _).symm
  | cons c t ih =>
    have later := ih fun d hd => h d (List.mem_cons_of_mem c hd)
    rw [List.cons_append, fieldsFrom_cons (by decide) (h c (by simp)), later,
        List.modifyHead_modifyHead]
    rfl

/-- Between quotation marks everything is read, and a doubled mark as one. -/
theorem fieldsFrom_quoted_append (t rest : Text) :
    fieldsFrom .quoted (doubleQuotes t ++ quote :: rest) =
      (fieldsFrom .afterQuote rest).modifyHead (t ++ ·) := by
  induction t with
  | nil =>
    simp only [doubleQuotes, List.nil_append, fieldsFrom, if_true]
    exact (congrFun List.modifyHead_id _).symm
  | cons c t ih =>
    have step : fieldsFrom .quoted (doubleQuotes (c :: t) ++ quote :: rest) =
        (fieldsFrom .quoted (doubleQuotes t ++ quote :: rest)).modifyHead (c :: ·) := by
      by_cases mark : c = quote
      · subst mark
        simp [doubleQuotes, fieldsFrom]
      · simp [doubleQuotes, fieldsFrom, mark]
    rw [step, ih, List.modifyHead_modifyHead]
    rfl

/-- **What stands for a field is read as the field**, whatever it holds. -/
theorem fieldsFrom_of_standsFor {written field : Text} (h : StandsFor written field) (rest : Text)
    (ends : EndsField rest) :
    fieldsFrom .start (written ++ rest) = (fieldsFrom .plain rest).modifyHead (field ++ ·) := by
  cases h with
  | quoted field =>
    have opened : fieldsFrom .start (quote :: doubleQuotes field ++ [quote] ++ rest) =
        fieldsFrom .quoted (doubleQuotes field ++ quote :: rest) := by
      simp [fieldsFrom]
    rw [opened, fieldsFrom_quoted_append, fieldsFrom_of_endsField (by decide) ends]
  | plain plain =>
    cases written with
    | nil =>
      rw [List.nil_append, fieldsFrom_of_endsField (by decide) ends]
      exact (congrFun List.modifyHead_id _).symm
    | cons c t =>
      rw [← fieldsFrom_plain_append plain, List.cons_append,
          fieldsFrom_cons (by decide) (plain c (by simp)),
          fieldsFrom_cons (by decide) (plain c (by simp))]

/-- The fields of a row are read one by one. -/
theorem fieldsFrom_of_forall₂ : ∀ {written fields : List Text},
    List.Forall₂ StandsFor written fields → fields ≠ [] →
      fieldsFrom .start ([','].intercalate written) = fields
  | _, _, .nil, nonempty => absurd rfl nonempty
  | [w], [field], .cons first .nil, _ => by
    have last := fieldsFrom_of_standsFor first [] (by simp [EndsField])
    simpa [fieldsFrom] using last
  | w :: v :: ws, field :: next :: more, .cons first later, _ => by
    have own := fieldsFrom_of_standsFor first (',' :: [','].intercalate (v :: ws))
      (by simp [EndsField])
    have behind := fieldsFrom_of_forall₂ later (by simp)
    rw [List.intercalate_cons_cons, List.append_assoc, List.singleton_append, own,
      fieldsFrom_comma (by decide), behind]
    simp

/-- A row opens with what stands for its first field. -/
theorem exists_intercalate_cons (w : Text) (ws : List Text) :
    ∃ rest, [','].intercalate (w :: ws) = w ++ rest ∧ EndsField rest := by
  cases ws with
  | nil => exact ⟨[], by simp, by simp [EndsField]⟩
  | cons v ws =>
    refine ⟨',' :: [','].intercalate (v :: ws), ?_, by simp [EndsField]⟩
    rw [List.intercalate_cons_cons, List.append_assoc, List.singleton_append]

/-- No row opens with a line end. -/
theorem not_isLineEnd_head?_of_isRow {row : Text} {fields : List Text} (h : IsRow row fields) :
    ∀ c ∈ row.head?, isLineEnd c = false := by
  obtain ⟨written, rfl, stand⟩ := h
  cases stand with
  | nil => simp
  | @cons w field ws more first _ =>
    obtain ⟨rest, row, ends⟩ := exists_intercalate_cons w ws
    rw [row]
    intro c head
    cases first with
    | quoted =>
      obtain rfl : quote = c := Option.some.inj head
      decide
    | plain plain =>
      cases w with
      | nil =>
        obtain rfl : c = ',' := ends c head
        decide
      | cons d w =>
        obtain rfl : d = c := Option.some.inj head
        exact (needsQuotes_eq_false_iff.1 (plain d List.mem_cons_self)).2.2

/-- **A row is read as its fields**, once a byte order mark in front of it is skipped. -/
theorem decode?_of_isRow {t row : Text} {fields : List Text} (h : IsRow row fields)
    (nonempty : row ≠ []) (skipped : skipMark t = row) : decode? t = some fields := by
  have lineEnd := not_isLineEnd_head?_of_isRow h
  obtain ⟨written, own, stand⟩ := h
  have filled : fields ≠ [] := by
    rintro rfl
    rw [List.forall₂_nil_right_iff.1 stand] at own
    exact nonempty own
  have read := fieldsFrom_of_forall₂ stand filled
  rw [← own] at read
  rw [decode?, skipped]
  cases row with
  | nil => exact absurd rfl nonempty
  | cons c rest =>
    rw [List.dropWhile_cons_of_neg (by simp [lineEnd c rfl])]
    exact congrArg some read

theorem writesLines_standard : standard.WritesLines := fun t u more =>
  ⟨encodeLine (t :: u :: more), rfl, rfl⟩

theorem readsRows_standard : standard.ReadsRows := by
  intro row fields h nonempty bare
  have read := decode?_of_isRow h nonempty (skipMark_of_head? bare)
  exact congrArg (Option.map Except.ok) read

theorem skipsMark_standard : standard.SkipsMark := by
  intro row fields h nonempty
  have skipped : skipMark ('\uFEFF' :: row) = row := by rw [skipMark, if_pos rfl]
  have read := decode?_of_isRow h nonempty skipped
  exact congrArg (Option.map Except.ok) read

/-! ## §5 Line ends -/

theorem not_isLineEnd_getLast?_encodeField (t : Text) :
    ∀ c ∈ (encodeField t).getLast?, isLineEnd c = false := by
  intro c hc
  unfold encodeField at hc
  split at hc
  · rw [List.getLast?_concat] at hc
    obtain rfl : quote = c := Option.some.inj hc
    decide
  · next plain =>
    have plain : ∀ c ∈ t, needsQuotes c = false := by simpa using plain
    exact (needsQuotes_eq_false_iff.1 (plain c (List.mem_of_getLast? hc))).2.2

theorem not_isLineEnd_getLast?_intercalate : ∀ (fields : List Text),
    ∀ c ∈ ([','].intercalate (fields.map encodeField)).getLast?, isLineEnd c = false
  | [], c, hc => by simp at hc
  | [t], c, hc => by
    rw [List.map_singleton, List.intercalate_singleton] at hc
    exact not_isLineEnd_getLast?_encodeField t c hc
  | t :: u :: more, c, hc => by
    rw [List.map_cons, List.map_cons, List.intercalate_cons_cons, List.getLast?_append] at hc
    cases last : ([','].intercalate ((u :: more).map encodeField)).getLast? with
    | none =>
      rw [List.map_cons] at last
      obtain rfl : ',' = c := by simpa [last] using hc
      decide
    | some d =>
      have later := not_isLineEnd_getLast?_intercalate (u :: more) d last
      rw [List.map_cons] at last
      obtain rfl : d = c := by simpa [last] using hc
      exact later

/-- Taking the line ends off a line of several fields leaves its fields: no written field ends with
one. -/
theorem trimEndOf_encodeLine (t u : Text) (more : List Text) :
    Text.trimEndOf isLineEnd (encodeLine (t :: u :: more)) = encode (t :: u :: more) := by
  rw [encodeLine, Text.trimEndOf_concat (by decide), encode_cons_cons,
      Text.trimEndOf_eq_self (not_isLineEnd_getLast?_intercalate _)]

end AbilityText.Csv

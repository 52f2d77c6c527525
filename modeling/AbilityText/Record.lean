/-
AbilityText.Record — an ability text stored with its chains in a row of two columns.
-/
import AbilityText.Record.ChainField
import AbilityText.Record.Csv
import AbilityText.Text.Space

namespace AbilityText

/-- An ability text with its chains. -/
structure Record where
  text : Text
  chains : List Chain
deriving DecidableEq

namespace Record

/-- The same text, and the same sets of components in the same order. -/
def same (a b : Record) : Bool :=
  decide (a.text = b.text) && a.chains.length == b.chains.length &&
    (a.chains.zip b.chains).all fun pair => pair.1.same pair.2

/-! ## Rows -/

/-- The row of a record: the line that a library writes for it, without the line ends that close it.
-/
def toRow (csv : Csv.Library) (record : Record) : Except RecordError Text := do
  let fields := [record.text, ChainField.encodeChains record.chains]
  let written ← (csv.writeRecord csv.writer fields).mapError .refused
  let bytes ← (csv.intoInner written).mapError .refused
  let line ← (Utf8.decode bytes).mapError .notUtf8
  return Text.trimEndOf Csv.isLineEnd line

/-- The record of the first row of a text, as a library reads it. Chains that were stored without
quotes fill several columns, which are joined again. -/
def ofRow (csv : Csv.Library) (row : Text) : Except RecordError Record :=
  match csv.firstRecord? row with
  | none => .error .emptyRow
  | some (.error message) => .error (.refused message)
  | some (.ok (text :: field :: more)) => do
    let chains ← ChainField.decodeChains ([','].intercalate (field :: more))
    return { text, chains }
  | some (.ok _) => .error (.missingColumn (Text.trimEnd row))

end Record

end AbilityText

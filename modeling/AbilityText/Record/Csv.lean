/-
AbilityText.Record.Csv — comma-separated values: one record on one line, and the first record of a
text.

Rows are written and read by a library, of which no more is known here than what it offers
(`Library`). The one that the program works with (`standard`) puts fields in quotes where they need
them, and reads such rows.
-/
import AbilityText.Text.Utf8

namespace AbilityText.Csv

/-- A library for comma-separated values, in its default settings. It has a writer, which takes
records and hands out the bytes that they make, and it reads the first record of a text, if there is
one. What fails gives the message of the error. -/
structure Library where
  Writer : Type
  writer : Writer
  writeRecord : Writer → List Text → Except Text Writer
  intoInner : Writer → Except Text ByteArray
  firstRecord? : Text → Option (Except Text (List Text))

/-- A line end. -/
def isLineEnd (c : Char) : Bool := c = '\n' || c = '\r'

/-- The quotation mark. -/
def quote : Char := '\x22'

/-! ## Writing -/

/-- Does a field with this character need quotes? -/
def needsQuotes (c : Char) : Bool := c = ',' || c = quote || isLineEnd c

/-- A text with every quotation mark written twice. -/
def doubleQuotes : Text → Text
  | [] => []
  | c :: rest => if c = quote then quote :: quote :: doubleQuotes rest else c :: doubleQuotes rest

/-- A field, in quotes when it needs them. -/
def encodeField (t : Text) : Text :=
  if t.any needsQuotes then quote :: doubleQuotes t ++ [quote] else t

/-- The fields of a record side by side. A record that would be a blank line is one quoted field. -/
def encode : List Text → Text
  | [] | [[]] => [quote, quote]
  | fields => [','].intercalate (fields.map encodeField)

/-- The line of a record, with the line end that closes it. -/
def encodeLine (fields : List Text) : Text := encode fields ++ ['\n']

/-! ## Reading -/

/-- Where a reader stands: at the start of a field, inside a field without or with quotes, or right
after a quotation mark inside quotes. -/
inductive State
  | start
  | plain
  | quoted
  | afterQuote
deriving DecidableEq, Repr

/-- The fields of the record in which the reader stands; the first of them is what is left of the
field it stands in. Inside quotes a doubled mark is one mark and nothing else ends the field; after
the closing mark the field goes on without quotes. -/
def fieldsFrom : State → Text → List Text
  | _, [] => [[]]
  | .quoted, c :: rest =>
    if c = quote then fieldsFrom .afterQuote rest
    else (fieldsFrom .quoted rest).modifyHead (c :: ·)
  | state, c :: rest =>
    if c = quote && state == .start then fieldsFrom .quoted rest
    else if c = quote && state == .afterQuote then
      (fieldsFrom .quoted rest).modifyHead (c :: ·)
    else if c = ',' then [] :: fieldsFrom .start rest
    else if isLineEnd c then [[]]
    else (fieldsFrom .plain rest).modifyHead (c :: ·)

/-- The text without a byte order mark at its start. -/
def skipMark : Text → Text
  | [] => []
  | c :: rest => if c = '\uFEFF' then rest else c :: rest

/-- The fields of the first record of a text. Blank lines before it are passed over. -/
def decode? (t : Text) : Option (List Text) :=
  match (skipMark t).dropWhile isLineEnd with
  | [] => none
  | record => some (fieldsFrom .start record)

/-! ## The library -/

/-- The library that writes these lines and reads the first record of a text. Its writer holds what
was written, and it refuses nothing. -/
def standard : Library where
  Writer := Text
  writer := []
  writeRecord written fields := .ok (written ++ encodeLine fields)
  intoInner written := .ok (Utf8.encode written)
  firstRecord? t := (decode? t).map .ok

end AbilityText.Csv
